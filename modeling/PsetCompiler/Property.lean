import PsetCompiler.Checked

/-!
# Properties

A property has a name, localized names, perhaps an identifier of its own, and perhaps a type. The
types are seven; a complex property groups other properties.

## Main definitions

* `Alias`, `EnumItem` — localized names and the items of an enumeration.
* `ValueType`, `Property` — the types of properties, and properties.
* `Property.json`, `Property.read` — a property as JSON, and read from it.
-/

namespace PsetCompiler

/-- A name for people who speak a language. -/
structure Alias where
  /-- The language, such as `en-GB`. -/
  language : String
  text : String
deriving DecidableEq, Repr

/-- An item of an enumeration. -/
structure EnumItem where
  value : String
  aliases : List Alias := []
deriving DecidableEq, Repr

/-- What a property may hold; `α` is the type of the members of a complex property. -/
inductive ValueType (α : Type) where
  /-- One value of a data type. -/
  | single (dataType : String)
  /-- One of the items of a named enumeration. -/
  | enumerated (name : String) (items : List EnumItem)
  /-- A reference to an entity. -/
  | reference (entity : String)
  /-- A list of values of a data type. -/
  | list (dataType : String)
  /-- A value of a data type between two bounds. -/
  | bounded (dataType : String)
  /-- A table from values of one type to values of another. -/
  | table (defining defined expression : Option String)
  /-- A named group of properties. -/
  | complex (name : String) (members : List α)

/-- A property; its type is unknown when the definition gives no usable one. -/
structure Property where
  name : String
  /-- The identifier that the definition carries, as it was read. -/
  ifdGuid : Option String := none
  aliases : List Alias := []
  valueType : Option (ValueType Property) := none

namespace ValueType

variable {α : Type}

/-- The members of a complex type; other types have none. -/
def members : ValueType α → List α
  | .complex _ ms => ms
  | _ => []

/-- The type groups other properties. -/
def isComplex : ValueType α → Bool
  | .complex _ _ => true
  | _ => false

end ValueType

namespace Property

/-- The property groups other properties. -/
def isComplex (p : Property) : Bool :=
  match p.valueType with
  | some t => t.isComplex
  | none => false

/-- The members of a complex property; other properties have none. -/
def members (p : Property) : List Property :=
  match p.valueType with
  | some t => t.members
  | none => []

end Property

/-! ### As JSON -/

/-- A localized name as JSON. -/
def Alias.json (a : Alias) : Json :=
  .obj [("lang", .str a.language), ("text", .str a.text)]

/-- An item as JSON. -/
def EnumItem.json (item : EnumItem) : Json :=
  .obj [("value", .str item.value), ("aliases", .arr (item.aliases.map Alias.json))]

/-- A type as JSON, given the JSON of the members. -/
def ValueType.json (members : List Json) : ValueType Property → Json
  | .single dataType => .obj [("kind", .str "single_value"), ("data_type", .str dataType)]
  | .enumerated name items =>
    .obj [("kind", .str "enumerated_value"), ("name", .str name),
      ("items", .arr (items.map EnumItem.json))]
  | .reference entity => .obj [("kind", .str "reference_value"), ("ref_entity", .str entity)]
  | .list dataType => .obj [("kind", .str "list_value"), ("data_type", .str dataType)]
  | .bounded dataType => .obj [("kind", .str "bounded_value"), ("data_type", .str dataType)]
  | .table defining defined expression =>
    .obj [("kind", .str "table_value"), ("defining_type", .text? defining),
      ("defined_type", .text? defined), ("expression", .text? expression)]
  | .complex name _ =>
    .obj [("kind", .str "complex_property"), ("name", .str name), ("members", .arr members)]

mutual

/-- A property as JSON. -/
def Property.json : Property → Json
  | ⟨name, ifdGuid, aliases, valueType⟩ =>
    .obj [("name", .str name), ("ifd_guid", .text? ifdGuid),
      ("aliases", .arr (aliases.map Alias.json)),
      ("property_type",
        match valueType with
        | none => .null
        | some (.complex name members) =>
          ValueType.json (membersJson members) (.complex name members)
        | some other => ValueType.json [] other)]

/-- Properties as JSON. -/
def membersJson : List Property → List Json
  | [] => []
  | p :: ps => p.json :: membersJson ps

end

/-! ### From JSON -/

/-- A localized name, read. -/
def Alias.read : Json → Checked Alias :=
  readRecord fun fields =>
    Alias.mk <$> .required "lang" readText fields <*> .required "text" readText fields

/-- Localized names, read. -/
def readAliases (fields : List (String × Json)) : Checked (List Alias) :=
  .optional "aliases" [] (readList Alias.read) fields

/-- An item, read. -/
def EnumItem.read : Json → Checked EnumItem :=
  readRecord fun fields => EnumItem.mk <$> .required "value" readText fields <*> readAliases fields

/-- A type that groups nothing, read from the fields of its record. -/
def ValueType.readSimple (kind : String) (fields : List (String × Json)) :
    Option (Checked (ValueType Property)) :=
  match kind with
  | "single_value" => some (.single <$> .required "data_type" readText fields)
  | "enumerated_value" =>
    some (.enumerated <$> .required "name" readText fields
      <*> .optional "items" [] (readList EnumItem.read) fields)
  | "reference_value" => some (.reference <$> .required "ref_entity" readText fields)
  | "list_value" => some (.list <$> .required "data_type" readText fields)
  | "bounded_value" => some (.bounded <$> .required "data_type" readText fields)
  | "table_value" =>
    let text (key : String) : Checked (Option String) :=
      .optional key none (readNullable readText) fields
    some (.table <$> text "defining_type" <*> text "defined_type" <*> text "expression")
  | _ => none

theorem Json.sizeOf_lookupLast {key : String} {fields : List (String × Json)} {value : Json}
    (h : Json.lookupLast key fields = some value) : sizeOf value < sizeOf fields := by
  have key_of_lookup :
      ∀ l : List (String × Json), l.lookup key = some value → (∃ k, (k, value) ∈ l) := by
    intro l
    induction l with
    | nil => simp
    | cons entry rest ih =>
      obtain ⟨k, v⟩ := entry
      rw [List.lookup_cons]
      split
      · intro hv
        cases hv
        exact ⟨k, by simp⟩
      · intro hv
        obtain ⟨k', hk'⟩ := ih hv
        exact ⟨k', by simp [hk']⟩
  obtain ⟨k, hk⟩ := key_of_lookup _ h
  have hmem : (k, value) ∈ fields := by simpa using hk
  have := List.sizeOf_lt_of_mem hmem
  simp at this
  omega

mutual

/-- A property, read. -/
def Property.read : Json → Checked Property
  | .obj fields =>
    Property.mk <$> .required "name" readText fields
      <*> .optional "ifd_guid" none (readNullable readText) fields
      <*> readAliases fields
      <*> (match h : Json.lookupLast "property_type" fields with
        | none => .ok none
        | some .null => .ok none
        | some (.obj typeFields) =>
          have := Json.sizeOf_lookupLast h
          ((Property.readType typeFields).map some).inside "property_type"
        | some _ => (Checked.problem .taggedType).inside "property_type")
  | _ => .problem .recordType
termination_by value => sizeOf value
decreasing_by
  simp at this ⊢
  omega

/-- The type of a property, read from the fields of its record. -/
def Property.readType (fields : List (String × Json)) : Checked (ValueType Property) :=
  match Json.lookupLast "kind" fields with
  | none => .problem .tagMissing
  | some (.str kind) =>
    match ValueType.readSimple kind fields with
    | some read => read.inside kind
    | none =>
      if kind = "complex_property" then
        Checked.inside kind
          (ValueType.complex <$> .required "name" readText fields
            <*> (match h : Json.lookupLast "members" fields with
              | none => .ok []
              | some (.arr items) =>
                have := Json.sizeOf_lookupLast h
                (Property.readAll 0 items).inside "members"
              | some _ => (Checked.problem .listType).inside "members"))
      else .problem .tagUnknown
  | some _ => .problem .tagUnknown
termination_by sizeOf fields
decreasing_by
  simp at this ⊢
  omega

/-- Properties, each read under its index. -/
def Property.readAll (index : Nat) : List Json → Checked (List Property)
  | [] => .ok []
  | item :: rest =>
    Checked.app (((Property.read item).inside (toString index)).map List.cons)
      (Property.readAll (index + 1) rest)
termination_by items => sizeOf items

end

end PsetCompiler
