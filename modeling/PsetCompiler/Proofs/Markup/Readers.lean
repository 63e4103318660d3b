import PsetCompiler.Definition.Set
import PsetCompiler.Entity.SchemaFile
import PsetCompiler.Proofs.Markup.Space
import PsetCompiler.Proofs.Outcome

/-!
# Reading elements without their namespaces

Definitions and schemas are read from elements by nothing but local names, attributes, texts and the
order of elements.  Every reader therefore gives the same for an element and for what is left of it
without namespaces, in its value, its failure and its reports, and so it does for two elements of
which the same is left.

A reader that looks for elements finds them without namespaces too and hands them on to other
readers.  The types of properties and the members of complex ones are read by one recursion, and its
parts are compared together.

## Main results

* `readProperty_unspaced`, `readType_unspaced`, `readMembers_unspaced` — properties, their types and
  their members.
* `readSet_unspaced`, `readSchema_unspaced` — definitions and schemas.
* `read_eq_of_unspaced_eq` — **namespaces do not matter.**
-/

namespace PsetCompiler

open Markup (Element Found)

/-! ### Types -/

theorem aliasOf?_unspaced (e : Element) : aliasOf? e.unspaced = aliasOf? e := by
  rw [aliasOf?, e.trimmedText?_unspaced, e.attribute?_unspaced, aliasOf?]

theorem aliasesOf_unspaced (e : Element) : aliasesOf e.unspaced = aliasesOf e := by
  rw [aliasesOf, e.child?_unspaced, except_map_bind, aliasesOf]
  refine bind_congr fun names? => ?_
  cases names? with
  | none => rfl
  | some names =>
    simp only [Option.map_some, names.children_unspaced, Found.all_map, except_map_bind,
      List.filterMap_map, Function.comp_def, aliasOf?_unspaced]

theorem dataTypeOf_unspaced (e : Element) : dataTypeOf e.unspaced = dataTypeOf e := by
  rw [dataTypeOf, e.child?_unspaced, except_map_bind, dataTypeOf]
  refine bind_congr fun child? => ?_
  cases child? with
  | none => rfl
  | some child => exact congrArg pure (child.filledAttribute?_unspaced "type")

theorem constantOf?_unspaced (e : Element) : constantOf? e.unspaced = constantOf? e := by
  rw [constantOf?, e.childText?_unspaced, aliasesOf_unspaced, constantOf?]

theorem constantsOf_unspaced (e : Element) : constantsOf e.unspaced = constantsOf e := by
  rw [constantsOf, e.descendants_unspaced, Found.filterMapM_map, constantsOf]
  simp only [constantOf?_unspaced]

theorem itemValues_unspaced (e : Element) : itemValues e.unspaced = itemValues e := by
  rw [itemValues, e.descendants_unspaced, Found.all_map, except_map_bind, itemValues]
  simp only [List.filterMap_map, Function.comp_def, Element.trimmedText?_unspaced]

theorem dataTypeIn_map_unspaced (e : Option Element) :
    dataTypeIn (e.map Element.unspaced) = dataTypeIn e := by
  cases e with
  | none => rfl
  | some e => exact dataTypeOf_unspaced e

theorem tableType_unspaced (e : Element) : tableType e.unspaced = tableType e := by
  simp only [tableType, e.child?_unspaced, except_map_bind, e.childText?_unspaced,
    dataTypeIn_map_unspaced]

/-- The attribute of an element that may be there. -/
theorem bind_filledAttribute?_unspaced (e : Option Element) (key : String) :
    (e.map Element.unspaced).bind (·.filledAttribute? key) = e.bind (·.filledAttribute? key) := by
  cases e with
  | none => rfl
  | some e => exact e.filledAttribute?_unspaced key

theorem simpleType_unspaced (variant name place : String) (e : Element) :
    simpleType variant name place e.unspaced = simpleType variant name place e := by
  unfold simpleType
  split
  · rw [singleType, dataTypeOf_unspaced, singleType]
  · simp only [enumeratedType, constantsOf_unspaced, itemValues_unspaced, e.child?_unspaced,
      Attempt.bind_map, bind_filledAttribute?_unspaced]
  · rw [referenceType, dataTypeOf_unspaced, e.filledAttribute?_unspaced, referenceType]
  · rw [boundedType, dataTypeOf_unspaced, boundedType]
  · simp only [listType, e.descendant?_unspaced, Attempt.bind_map, bind_filledAttribute?_unspaced]
  · rw [tableType_unspaced]
  · rfl

/-! ### Properties -/

theorem typeElement?_unspaced (e : Element) :
    typeElement? e.unspaced = (typeElement? e).map (Option.map Element.unspaced) := by
  rw [typeElement?, e.child?_unspaced, except_map_bind, typeElement?]
  cases e.child? "PropertyType" with
  | error failure => rfl
  | ok child? =>
    cases child? with
    | none => rfl
    | some child => exact congrArg Except.ok child.firstElement?_unspaced

theorem memberElements_unspaced (e : Element) :
    memberElements e.unspaced = (memberElements e).map Element.unspaced := by
  unfold memberElements
  rw [e.localName_unspaced]
  split
  · rfl
  · rfl
  · exact e.children_unspaced "PropertyDef"
  · rfl

theorem memberDefs_unspaced (e : Element) :
    memberDefs e.unspaced = (memberDefs e).map Element.unspaced := by
  rw [memberDefs, e.elements_unspaced, Found.ofEach_map, memberDefs, Found.map_ofEach]
  simp only [memberElements_unspaced]

/-- The type of a property, without the proof that its element is smaller. -/
theorem readType_eq (name place : String) (e : Element) :
    readType name place e = (do
      match ← typeElement? e with
      | none => do
        report (.typeMissing place)
        return none
      | some variant => do
        let kind ← variant.localName
        if kind = complexTypeName then
          let members ← readMembers place (memberDefs variant).values
          let _ ← (memberDefs variant).all
          return some (.complex ((variant.filledAttribute? "name").getD name) members)
        else simpleType kind name place variant) := by
  rw [readType]
  split <;> simp [*] <;> rfl

mutual

theorem readProperty_unspaced (set : String) (e : Element) :
    readProperty set e.unspaced = readProperty set e := by
  rw [readProperty, readProperty, e.childText?_unspaced]
  refine bind_congr fun name? => ?_
  cases name? with
  | none => rfl
  | some name =>
    simp only [e.attribute?_unspaced, aliasesOf_unspaced, readType_unspaced name _ e]
termination_by (sizeOf e, 1)

theorem readType_unspaced (name place : String) (e : Element) :
    readType name place e.unspaced = readType name place e := by
  rw [readType_eq, readType_eq, typeElement?_unspaced, Attempt.bind_map]
  cases h : typeElement? e with
  | error failure => rfl
  | ok variant? =>
    cases variant? with
    | none => rfl
    | some variant =>
      have hsize := Nat.lt_trans (sizeOf_memberDefs variant) (sizeOf_typeElement? h)
      have hmembers := readMembers_unspaced place (memberDefs variant).values
      simp only [Attempt.bind_ok, Option.map_some, variant.localName_unspaced, memberDefs_unspaced,
        Found.all_map, Attempt.bind_map, variant.filledAttribute?_unspaced, simpleType_unspaced]
      rw [Found.map, hmembers]
termination_by (sizeOf e, 0)

theorem readMembers_unspaced (place : String) (elements : List Element) :
    readMembers place (elements.map Element.unspaced) = readMembers place elements := by
  cases elements with
  | nil => rfl
  | cons e rest =>
    rw [List.map_cons, readMembers, readMembers, readProperty_unspaced place e,
      readMembers_unspaced place rest]
termination_by (sizeOf elements, 0)

end

theorem readQuantity_unspaced (set : String) (e : Element) :
    readQuantity set e.unspaced = readQuantity set e := by
  simp only [readQuantity, e.childText?_unspaced, e.attribute?_unspaced, aliasesOf_unspaced]

/-! ### Definitions -/

theorem declaredVersion_unspaced (root : Element) :
    declaredVersion root.unspaced = declaredVersion root := by
  rw [declaredVersion, root.child?_unspaced, except_map_bind, declaredVersion]
  refine bind_congr fun version? => ?_
  cases version? with
  | none => rfl
  | some version =>
    simp only [Option.map_some, version.filledAttribute?_unspaced, version.text?_unspaced]

theorem namedClasses_unspaced (root : Element) :
    namedClasses root.unspaced = namedClasses root := by
  rw [namedClasses, root.descendants_unspaced, Found.all_map, except_map_bind, namedClasses]
  simp only [List.filterMap_map, Function.comp_def, Element.text?_unspaced]

theorem readHeader_unspaced (root : Element) (release : String) :
    readHeader root.unspaced release = readHeader root release := by
  simp only [readHeader, root.childText?_unspaced, root.name_unspaced, declaredVersion_unspaced,
    root.attribute?_unspaced, namedClasses_unspaced]

theorem readPart_unspaced (kind : SetKind) (set : String) (e : Element) :
    kind.readPart set e.unspaced = kind.readPart set e := by
  cases kind with
  | properties => exact readProperty_unspaced set e
  | quantities => exact readQuantity_unspaced set e

theorem parts_unspaced (kind : SetKind) (root : Element) :
    kind.parts root.unspaced = (kind.parts root).map (Found.map Element.unspaced) := by
  rw [SetKind.parts, root.child?_unspaced, except_map_bind, SetKind.parts]
  cases root.child? kind.partNames.1 with
  | error failure => rfl
  | ok parts? =>
    cases parts? with
    | none => rfl
    | some parts => exact congrArg Except.ok (parts.children_unspaced kind.partNames.2)

theorem readParts_unspaced (kind : SetKind) (set : String) (parts : Found Element) :
    readParts kind set (parts.map Element.unspaced) = readParts kind set parts := by
  rw [readParts, Found.all_map, Found.map, List.foldlM_map, readParts]
  simp only [readPart_unspaced, Attempt.bind_map]

theorem readSet_unspaced (root : Element) (file release : String) :
    readSet root.unspaced file release = readSet root file release := by
  simp only [readSet, root.localName_unspaced, root.name_unspaced, readHeader_unspaced,
    parts_unspaced, Attempt.bind_map, readParts_unspaced]

/-! ### Schemas -/

theorem predefinedTypeOf?_unspaced (declaration : Element) :
    predefinedTypeOf? declaration.unspaced = predefinedTypeOf? declaration := by
  rw [predefinedTypeOf?, declaration.attribute?_unspaced, declaration.filledAttribute?_unspaced,
    predefinedTypeOf?]

theorem declaredTypeEnum_unspaced (e : Element) :
    declaredTypeEnum e.unspaced = declaredTypeEnum e := by
  simp only [declaredTypeEnum, predefinedTypeAmong, e.descendants_unspaced, Found.filterMapM_map,
    predefinedTypeOf?_unspaced]

theorem eitherChild?_unspaced (e : Element) (first second : String) :
    eitherChild? e.unspaced first second =
      (eitherChild? e first second).map (Option.map Element.unspaced) := by
  rw [eitherChild?, e.child?_unspaced, except_map_bind, e.child?_unspaced, eitherChild?]
  cases e.child? first with
  | error failure => rfl
  | ok child? => cases child? <;> rfl

theorem extension?_unspaced (e : Element) :
    extension? e.unspaced = (extension? e).map (Option.map Element.unspaced) := by
  rw [extension?, eitherChild?_unspaced, except_map_bind, extension?]
  cases eitherChild? e "complexContent" "simpleContent" with
  | error failure => rfl
  | ok content? =>
    cases content? with
    | none => rfl
    | some content => exact eitherChild?_unspaced content "extension" "restriction"

theorem schemaEntity?_unspaced (e : Element) : schemaEntity? e.unspaced = schemaEntity? e := by
  simp only [schemaEntity?, e.attribute?_unspaced, extension?_unspaced, except_map_bind]
  split
  · rfl
  · refine bind_congr fun extension? => ?_
    cases extension? with
    | none => rfl
    | some extension =>
      simp only [Option.map_some, extension.attribute?_unspaced, declaredTypeEnum_unspaced]

theorem schemaEnumeration?_unspaced (e : Element) :
    schemaEnumeration? e.unspaced = schemaEnumeration? e := by
  simp only [schemaEnumeration?, e.attribute?_unspaced, e.child?_unspaced, except_map_bind]
  split
  · rfl
  · refine bind_congr fun restriction? => ?_
    cases restriction? with
    | none => rfl
    | some restriction =>
      simp only [Option.map_some, restriction.children_unspaced, Found.all_map, except_map_bind,
        List.filterMap_map, Function.comp_def, Element.filledAttribute?_unspaced]

theorem schemaEnumerations_unspaced (root : Element) :
    schemaEnumerations root.unspaced = schemaEnumerations root := by
  simp only [schemaEnumerations, root.children_unspaced, Found.filterMapM_map,
    schemaEnumeration?_unspaced]

theorem readSchema_unspaced (root : Element) (file version : String) :
    readSchema root.unspaced file version = readSchema root file version := by
  simp only [readSchema, root.children_unspaced, Found.filterMapM_map, schemaEntity?_unspaced,
    schemaEnumerations_unspaced]

/-- **Namespaces do not matter.**  Two elements that differ in nothing but their namespaces, at any
depth, are read alike: as definitions they give the same definition or fail with the same failure,
and as schemas they give the same forest or fail with the same failure, with the same reports. -/
theorem read_eq_of_unspaced_eq {root other : Element} (h : root.unspaced = other.unspaced) :
    (∀ file release, readSet root file release = readSet other file release) ∧
      ∀ file version, readSchema root file version = readSchema other file version := by
  refine ⟨fun file release => ?_, fun file version => ?_⟩
  · rw [← readSet_unspaced root, h, readSet_unspaced]
  · rw [← readSchema_unspaced root, h, readSchema_unspaced]

/-- A door without namespaces. -/
def plainDoor : Element :=
  { name := "PropertySetDef", content := [.element { name := "Name", content := [.chars "Door"] }] }

/-- The same door, whose elements are of two namespaces. -/
def spacedDoor : Element :=
  { space := some "psd", name := "PropertySetDef"
    content := [.element { space := some "ifc", name := "Name", content := [.chars "Door"] }] }

theorem read_eq_of_unspaced_eq_door :
    plainDoor.unspaced = spacedDoor.unspaced ∧ plainDoor.space ≠ spacedDoor.space ∧
      (∀ file release, readSet plainDoor file release = readSet spacedDoor file release) ∧
        ∀ file version, readSchema plainDoor file version = readSchema spacedDoor file version :=
  ⟨rfl, nofun, read_eq_of_unspaced_eq rfl⟩

end PsetCompiler
