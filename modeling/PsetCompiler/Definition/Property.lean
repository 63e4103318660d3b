import PsetCompiler.Definition.Header
import PsetCompiler.Markup.Element
import PsetCompiler.Property

/-!
# Properties of definitions

A property is read from its element: its name, its identifier, its localized names and its type. A
type that lacks the data type it needs is guessed or left open, always with a report. A property
without a name is dropped. A complex property keeps its members unless they are complex themselves.

## Main definitions

* `aliasesOf`, `dataTypeOf` — the localized names and the data type that an element holds.
* `enumeratedType` — the items of an enumeration with the aliases of its constants.
* `simpleType` — the type of a property that is not complex.
* `readProperty`, `readMembers` — a property, and the members of a complex one.
* `readQuantity` — a quantity, which is a property with a single value.
-/

namespace PsetCompiler

open Markup (Element Found)

/-- The localized name of an element, if it has a text. -/
def aliasOf? (e : Element) : Option Alias :=
  e.trimmedText?.map fun text => { language := (e.attribute? "lang").getD "", text }

/-- The localized names that an element holds. -/
def aliasesOf (e : Element) : Except Failure (List Alias) := do
  match ← e.child? "NameAliases" with
  | none => return []
  | some names => return (← (names.children "NameAlias").all).filterMap aliasOf?

/-- The data type that an element holds. -/
def dataTypeOf (e : Element) : Except Failure (Option String) :=
  return (← e.child? "DataType").bind (·.filledAttribute? "type")

/-! ### Types -/

/-- A single value. -/
def singleType (name place : String) (e : Element) : Attempt (Option (ValueType Property)) := do
  match ← dataTypeOf e with
  | some dataType => return some (.single dataType)
  | none =>
    let dataType := if Text.foldCase name = "reference" then "IfcIdentifier" else "IfcLabel"
    report (.assumedType place dataType)
    return some (.single dataType)

/-- A reference; its entity may also be an attribute. -/
def referenceType (place : String) (e : Element) : Attempt (Option (ValueType Property)) := do
  match (← dataTypeOf e).or (e.filledAttribute? "reftype") with
  | some entity => return some (.reference entity)
  | none =>
    report (.untypedReference place)
    return none

/-- A constant of an enumeration, if it has a name: its name and its aliases. -/
def constantOf? (e : Element) : Except Failure (Option (String × List Alias)) := do
  match ← e.childText? "Name" with
  | none => return none
  | some name => return some (name, ← aliasesOf e)

/-- The constants of an enumeration in document order. -/
def constantsOf (e : Element) : Except Failure (List (String × List Alias)) :=
  ((e.descendants "ConstantDef").filterMapM constantOf?).all

/-- The aliases of the last constant that has a name, in any case. -/
def aliasesUnder (constants : List (String × List Alias)) (name : String) : List Alias :=
  ((constants.reverse.find? fun constant => Text.sameFolded constant.1 name).map (·.2)).getD []

/-- How many constants there are whose names differ in more than case. -/
def constantCount (constants : List (String × List Alias)) : Nat :=
  (constants.map fun constant => Text.foldCase constant.1).eraseDups.length

/-- The items of an enumeration in document order. -/
def itemValues (e : Element) : Except Failure (List String) :=
  return (← (e.descendants "EnumItem").all).filterMap Element.trimmedText?

/-- The name of an enumeration that has none of its own. -/
def enumNameFor (property : String) : String :=
  "PEnum_" ++ property

/-- An enumeration. Without items it takes the names of its constants. -/
def enumeratedType (name place : String) (e : Element) : Attempt (Option (ValueType Property)) := do
  let constants ← constantsOf e
  let item (value : String) : EnumItem := { value, aliases := aliasesUnder constants value }
  let values ← itemValues e
  if values.isEmpty then
    report (.constantsUsed place (enumNameFor name))
    return some (.enumerated (enumNameFor name) (constants.map fun constant => item constant.1))
  else
    let listed := (← e.child? "EnumList").bind (·.filledAttribute? "name")
    if !constants.isEmpty ∧ constantCount constants ≠ values.length then
      report (.constantCount place values.length (constantCount constants))
    return some (.enumerated (listed.getD (enumNameFor name)) (values.map item))

/-- A value between bounds. -/
def boundedType (place : String) (e : Element) : Attempt (Option (ValueType Property)) := do
  match ← dataTypeOf e with
  | some dataType => return some (.bounded dataType)
  | none =>
    report (.untypedBounds place)
    return none

/-- A list of values; its data type may stand deeper inside. -/
def listType (place : String) (e : Element) : Attempt (Option (ValueType Property)) := do
  match (← e.descendant? "DataType").bind (·.filledAttribute? "type") with
  | some dataType => return some (.list dataType)
  | none =>
    report (.untypedList place)
    return none

/-- The data type that an element holds, if there is the element. -/
def dataTypeIn (e : Option Element) : Except Failure (Option String) :=
  match e with
  | some e => dataTypeOf e
  | none => return none

/-- A table. -/
def tableType (e : Element) : Except Failure (ValueType Property) := do
  let defining ← e.child? "DefiningValue"
  let defined ← e.child? "DefinedValue"
  let expression ← e.childText? "Expression"
  return .table (← dataTypeIn defining) (← dataTypeIn defined) expression

/-- The name of the element of a complex type. -/
def complexTypeName : String := "TypeComplexProperty"

/-- The type that an element of a name spells, if it is known and not complex. -/
def simpleType (variant name place : String) (e : Element) :
    Attempt (Option (ValueType Property)) :=
  match variant with
  | "TypePropertySingleValue" => singleType name place e
  | "TypePropertyEnumeratedValue" => enumeratedType name place e
  | "TypePropertyReferenceValue" => referenceType place e
  | "TypePropertyBoundedValue" => boundedType place e
  | "TypePropertyListValue" => listType place e
  | "TypePropertyTableValue" => return some (← tableType e)
  | variant => do
    report (.typeUnsupported place variant)
    return none

/-! ### Properties -/

/-- The element that spells the type of a property. -/
def typeElement? (e : Element) : Except Failure (Option Element) :=
  return (← e.child? "PropertyType").bind Element.firstElement?

/-- The elements of members that an element of a complex type is or holds. -/
def memberElements (e : Element) : Found Element :=
  match e.localName with
  | .error failure => { failure := some failure }
  | .ok "PropertyDef" => { values := [e] }
  | .ok "PropertyDefs" => e.children "PropertyDef"
  | .ok _ => {}

/-- The elements of the members of a complex type. -/
def memberDefs (e : Element) : Found Element :=
  .ofEach memberElements e.elements

theorem sizeOf_typeElement? {e variant : Element} (h : typeElement? e = .ok (some variant)) :
    sizeOf variant < sizeOf e := by
  cases hchild : e.child? "PropertyType" with
  | error failure => simp [typeElement?, hchild, bind, Except.bind] at h
  | ok child =>
    simp only [typeElement?, hchild, bind, Except.bind, pure, Except.pure] at h
    obtain ⟨child, rfl, hvariant⟩ := Option.bind_eq_some_iff.1 (Except.ok.inj h)
    exact Nat.lt_trans (Element.sizeOf_firstElement? hvariant) (Element.sizeOf_child? hchild)

theorem sizeOf_memberElements (e : Element) :
    sizeOf (memberElements e).values ≤ 1 + (sizeOf e + 1) := by
  unfold memberElements
  split
  · simp
  · simp [Nat.add_assoc]
  · have := e.sizeOf_children "PropertyDef"
    omega
  · simp

theorem sizeOf_append_list {α : Type} [SizeOf α] (l m : List α) :
    sizeOf (l ++ m) + 1 = sizeOf l + sizeOf m := by
  induction l with
  | nil => simp; omega
  | cons a l ih => simp; omega

theorem sizeOf_append_values {α : Type} [SizeOf α] (x y : Found α) :
    sizeOf (x.append y).values + 1 ≤ sizeOf x.values + sizeOf y.values := by
  unfold Found.append
  split
  · have : 1 ≤ sizeOf y.values := by
      cases y.values with
      | nil => simp
      | cons a l => simp; omega
    omega
  · have := sizeOf_append_list x.values y.values
    dsimp only
    omega

theorem sizeOf_memberDefs_of_list (l : List Element) :
    sizeOf (Found.ofEach memberElements l).values ≤ sizeOf l := by
  induction l with
  | nil => simp [Found.ofEach]
  | cons e l ih =>
    have := sizeOf_memberElements e
    have := sizeOf_append_values (memberElements e) (Found.ofEach memberElements l)
    simp [Found.ofEach]
    omega

theorem sizeOf_memberDefs (e : Element) : sizeOf (memberDefs e).values < sizeOf e :=
  Nat.lt_of_le_of_lt (sizeOf_memberDefs_of_list _) e.sizeOf_elements

/-- A member of a complex property, unless it is complex itself. -/
def keepMember (place : String) (member : Option Property) : Report (Option Property) :=
  match member with
  | none => return none
  | some p =>
    if p.isComplex then do
      report (.nestedComplex place p.name)
      return none
    else return some p

mutual

/-- A property of a set or of a complex property, unless it has no name. -/
def readProperty (set : String) (e : Element) : Attempt (Option Property) := do
  match ← e.childText? "Name" with
  | none =>
    report (.droppedProperty (.namelessProperty set))
    return none
  | some name =>
    let place := set ++ "." ++ name
    let ifdGuid ← normalizeGuid (e.attribute? "ifdguid") place
    let aliases ← aliasesOf e
    let valueType ← readType name place e
    return some { name, ifdGuid, aliases, valueType }
termination_by (sizeOf e, 1)

/-- The type of a property. -/
def readType (name place : String) (e : Element) : Attempt (Option (ValueType Property)) :=
  match h : typeElement? e with
  | .error failure => throw failure
  | .ok none => do
    report (.typeMissing place)
    return none
  | .ok (some variant) => do
    let kind ← variant.localName
    if kind = complexTypeName then
      have := Nat.lt_trans (sizeOf_memberDefs variant) (sizeOf_typeElement? h)
      let members ← readMembers place (memberDefs variant).values
      let _ ← (memberDefs variant).all
      return some (.complex ((variant.filledAttribute? "name").getD name) members)
    else simpleType kind name place variant
termination_by (sizeOf e, 0)

/-- The members of a complex property. -/
def readMembers (place : String) : List Element → Attempt (List Property)
  | [] => return []
  | e :: rest => do
    let member ← keepMember place (← readProperty place e)
    return member.toList ++ (← readMembers place rest)
termination_by elements => (sizeOf elements, 0)

end

/-! ### Quantities -/

/-- The data types of the types of quantities. -/
def quantityTypes : List (String × String) :=
  [("Q_LENGTH", "IfcLengthMeasure"), ("Q_AREA", "IfcAreaMeasure"), ("Q_VOLUME", "IfcVolumeMeasure"),
    ("Q_COUNT", "IfcCountMeasure"), ("Q_TIME", "IfcTimeMeasure"), ("Q_WEIGHT", "IfcMassMeasure")]

/-- The data type of a type of quantities; one that is unknown is reported. -/
def quantityDataType (set name quantity : String) : Report String :=
  match quantityTypes.lookup quantity with
  | some dataType => return dataType
  | none => do
    report (.unknownQuantity set name quantity)
    return "IfcLabel"

/-- A quantity of a set, unless it has no name. -/
def readQuantity (set : String) (e : Element) : Attempt (Option Property) := do
  match ← e.childText? "Name" with
  | none =>
    report (.droppedQuantity (.namelessQuantity set))
    return none
  | some name =>
    let dataType ← quantityDataType set name (Text.upper ((← e.childText? "QtoType").getD ""))
    let ifdGuid ← normalizeGuid (e.attribute? "ifdguid") (set ++ "." ++ name)
    return some { name, ifdGuid, aliases := ← aliasesOf e, valueType := some (.single dataType) }

end PsetCompiler
