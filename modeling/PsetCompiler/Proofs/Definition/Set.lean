import PsetCompiler.Catalog
import PsetCompiler.Definition.Predefined
import PsetCompiler.Definition.Set
import PsetCompiler.Proofs.Definition.Leaves
import PsetCompiler.Proofs.Definition.Property
import PsetCompiler.Proofs.Text.Order
import Mathlib.Data.List.Induction

/-!
# What reading definitions establishes

A definition comes from the root element of a file or is one of the predefined sets.  Either way its
properties and their members are normal, and so are its leaves, which are what the later stages look
at.  A catalog holds the definitions that were added to it and nothing else, so all that is known of
single definitions is known of everything in the catalog.

## Main definitions

* `PropertySet.IsNormal` — what is known of definitions.
* `PropertySet.IsAdmitted` — the definitions that there are: those that were read, and the
  predefined ones.
* `Catalog.ofList` — a catalog to which definitions were added one by one.

## Main results

* `isNormal_of_readSet`, `isNormal_of_mem_predefinedSets` — **every definition is normal.**
* `Catalog.perm_entries_ofList` — what is in a catalog.
* `Catalog.leaf_ofList` — **every leaf in a catalog of definitions is normal and not complex.**
-/

namespace PsetCompiler

open Markup (Element Found)

/-! ### Normal definitions -/

/-- The properties of a definition are normal, and so are the members of complex ones. -/
def PropertySet.IsNormal (pset : PropertySet) : Prop :=
  ∀ p ∈ pset.properties, p.IsNormal ∧ p.HasNormalMembers

/-- A leaf of a normal definition is normal, and it is not complex: it is a member, or a property
that has none. -/
theorem PropertySet.IsNormal.leaf {pset : PropertySet} (h : pset.IsNormal)
    {leaf : Option String × Property} (hleaf : leaf ∈ pset.leaves) :
    leaf.2.IsNormal ∧ leaf.2.isComplex = false := by
  obtain ⟨p, hp, hleaf⟩ := List.mem_flatMap.mp hleaf
  rcases Property.mem_leaves hleaf with hm | ⟨heq, hsimple⟩
  · exact (h p hp).2 _ hm
  · rw [heq]
    exact ⟨(h p hp).1, hsimple⟩

/-! ### Definitions of files -/

theorem isNormal_of_readPart {kind : SetKind} {set : String} {e : Element} {p : Property}
    (h : (kind.readPart set e).run.value = .ok (some p)) : p.IsNormal ∧ p.HasNormalMembers := by
  cases kind with
  | properties => exact ⟨isNormal_of_readProperty h, hasNormalMembers_of_readProperty h⟩
  | quantities =>
    obtain ⟨hnormal, hsimple⟩ := isNormal_of_readQuantity h
    exact ⟨hnormal, Property.hasNormalMembers_of_isComplex_eq_false hsimple⟩

/-- A property that is added is behind those that are there, if it is added at all. -/
theorem mem_addUnique {set : String} {properties : List Property} {p? : Option Property}
    {p : Property} (h : p ∈ (addUnique set properties p?).value) :
    p ∈ properties ∨ p? = some p := by
  unfold addUnique at h
  split at h
  · exact .inl h
  · split at h
    · exact .inl h
    · rcases List.mem_append.mp h with h | h
      · exact .inl h
      · rw [List.mem_singleton] at h
        exact .inr (congrArg some h.symm)

theorem isNormal_of_readParts {kind : SetKind} {set : String} {parts : Found Element}
    {properties : List Property} (h : (readParts kind set parts).run.value = .ok properties) :
    ∀ p ∈ properties, p.IsNormal ∧ p.HasNormalMembers := by
  unfold readParts at h
  obtain ⟨read, hread, h⟩ := Attempt.value_bind_eq_ok_iff.mp h
  obtain ⟨all, -, h⟩ := Attempt.value_bind_eq_ok_iff.mp h
  cases h
  -- the loop keeps that everything read so far is normal
  refine Attempt.foldlM_keeps (P := fun ps => ∀ p ∈ ps, p.IsNormal ∧ p.HasNormalMembers)
    ?_ nofun hread
  intro e _ ps ps' hps hstep p hp
  obtain ⟨p?, hp?, hstep⟩ := Attempt.value_bind_eq_ok_iff.mp hstep
  rw [← Except.ok.inj hstep] at hp
  rcases mem_addUnique hp with hp | rfl
  · exact hps p hp
  · exact isNormal_of_readPart hp?

/-- A definition that is read is normal, whatever its root element holds. -/
theorem isNormal_of_readSet {root : Element} {file release : String} {pset : PropertySet}
    (h : (readSet root file release).run.value = .ok pset) : pset.IsNormal := by
  unfold readSet at h
  obtain ⟨kindName, -, h⟩ := Attempt.value_bind_eq_ok_iff.mp h
  split at h
  · cases h
  · obtain ⟨header, -, h⟩ := Attempt.value_bind_eq_ok_iff.mp h
    obtain ⟨parts, -, h⟩ := Attempt.value_bind_eq_ok_iff.mp h
    obtain ⟨properties, hproperties, h⟩ := Attempt.value_bind_eq_ok_iff.mp h
    cases h
    exact isNormal_of_readParts hproperties

/-- A definition is its header with its properties. -/
theorem readSet_eq_ok {root : Element} {file release rootName : String} {kind : SetKind}
    {header : PropertySet} {parts : Found Element} {properties : List Property}
    (hroot : root.localName = .ok rootName) (hkind : SetKind.ofRoot? rootName = some kind)
    (hheader : (readHeader root release).run.value = .ok header)
    (hparts : kind.parts root = .ok parts)
    (hproperties : (readParts kind header.name parts).run.value = .ok properties) :
    (readSet root file release).run.value = .ok { header with properties } := by
  rw [readSet, Attempt.value_bind_except hroot, hkind]
  dsimp only
  rw [Attempt.value_bind_ok hheader, Attempt.value_bind_except hparts,
    Attempt.value_bind_ok hproperties]
  rfl

/-! ### A definition that is put right

A complex property holds two enumerations, one of them with an empty list of items, and another
complex property.
-/

/-- An element that holds a text. -/
def textElement (name text : String) : Element :=
  { name, content := [.chars text] }

/-- The element of a property whose type is spelled by another one. -/
def propertyElement (name guid : String) (type : Element) : Element :=
  { name := "PropertyDef"
    attributes := [("ifdguid", guid)]
    content := [.element (textElement "Name" name),
      .element { name := "PropertyType", content := [.element type] }] }

theorem aliasesOf_propertyElement (name guid : String) (type : Element) :
    aliasesOf (propertyElement name guid type) = .ok [] := by
  simp [aliasesOf, propertyElement, textElement, Element.child?, Element.children,
    Element.elements, Markup.Node.element?, Element.named, Element.localName, Found.first?,
    bind, Except.bind, pure, Except.pure]

theorem typeElement?_propertyElement (name guid : String) (type : Element) :
    typeElement? (propertyElement name guid type) = .ok (some type) := by
  simp [typeElement?, propertyElement, textElement, Element.child?, Element.children,
    Element.elements, Element.firstElement?, Markup.Node.element?, Element.named,
    Element.localName, Found.first?]

/-- The element of an enumeration with some items. -/
def enumElement (items : List String) : Element :=
  { name := "TypePropertyEnumeratedValue"
    content := [.element
      { name := "EnumList"
        content := items.map fun item => .element (textElement "EnumItem" item) }] }

/-- The element of a property that is a label. -/
def labelElement (name : String) : Element :=
  propertyElement name ""
    { name := "TypePropertySingleValue"
      content := [.element { name := "DataType", attributes := [("type", "IfcLabel")] }] }

/-- What is read of it. -/
def labelProperty (name : String) : Property :=
  { name, valueType := some (.single "IfcLabel") }

theorem value_readProperty_label {set name : String}
    (hname : (labelElement name).childText? "Name" = .ok (some name)) :
    (readProperty set (labelElement name)).run.value = .ok (some (labelProperty name)) := by
  have htype : (readType name (set ++ "." ++ name) (labelElement name)).run.value =
      .ok (some (.single "IfcLabel")) :=
    readType_eq_some_iff.mpr ⟨_, "TypePropertySingleValue",
      typeElement?_propertyElement _ _ _, rfl, .inr ⟨by decide, rfl⟩⟩
  exact readProperty_eq_some_iff.mpr ⟨hname, rfl, aliasesOf_propertyElement _ _ _, htype⟩

def statusElement : Element :=
  propertyElement "Status" "F1C2E6D00A4B4A539D3A6A2F0C1B7E55" (enumElement [])

def gradeElement : Element :=
  propertyElement "Grade" "" (enumElement ["Good", "Poor"])

def historyElement : Element :=
  propertyElement "History" "none" { name := "TypeComplexProperty" }

def assessmentElement : Element :=
  propertyElement "Assessment" ""
    { name := "TypeComplexProperty"
      content := [.element statusElement, .element gradeElement, .element historyElement] }

def conditionRoot : Element :=
  { name := "PropertySetDef"
    content :=
      [.element (textElement "Name" "Pset_Condition"),
        .element (textElement "IfcVersion" "2x3"),
        .element { name := "PropertyDefs", content := [.element assessmentElement] }] }

def statusProperty : Property :=
  { name := "Status", ifdGuid := some "f1c2e6d0-0a4b-4a53-9d3a-6a2f0c1b7e55"
    valueType := some (.enumerated "PEnum_Status" []) }

def gradeProperty : Property :=
  { name := "Grade"
    valueType := some (.enumerated "PEnum_Grade" [{ value := "Good" }, { value := "Poor" }]) }

def assessmentProperty : Property :=
  { name := "Assessment"
    valueType := some (.complex "Assessment" [statusProperty, gradeProperty]) }

/-- What is read of it: the inner complex property is dropped, and its identifier before that. -/
def conditionSet : PropertySet :=
  { name := "Pset_Condition", version := "IFC2X3", release := "IFC2X3"
    properties := [assessmentProperty] }

theorem value_readProperty_assessment :
    (readProperty "Pset_Condition" assessmentElement).run.value =
      .ok (some assessmentProperty) := by
  have hstatus : (readProperty "Pset_Condition.Assessment" statusElement).run.value =
      .ok (some statusProperty) :=
    readProperty_eq_some_iff.mpr ⟨rfl, by decide +kernel, rfl,
      readType_eq_some_iff.mpr ⟨_, _, rfl, rfl, .inr ⟨by decide, rfl⟩⟩⟩
  have hgrade : (readProperty "Pset_Condition.Assessment" gradeElement).run.value =
      .ok (some gradeProperty) :=
    readProperty_eq_some_iff.mpr ⟨rfl, rfl, rfl,
      readType_eq_some_iff.mpr ⟨_, _, rfl, rfl, .inr ⟨by decide, rfl⟩⟩⟩
  have hhistory : (readProperty "Pset_Condition.Assessment" historyElement).run.value =
      .ok (some { name := "History", valueType := some (.complex "History" []) }) :=
    readProperty_eq_some_iff.mpr ⟨rfl, by decide +kernel, rfl,
      readType_eq_some_iff.mpr ⟨_, _, rfl, rfl,
        .inl ⟨rfl, [], [], value_readMembers_nil _, rfl, rfl⟩⟩⟩
  have hmembers : (readMembers "Pset_Condition.Assessment"
      [statusElement, gradeElement, historyElement]).run.value =
        .ok [statusProperty, gradeProperty] :=
    readMembers_cons_eq_ok_iff.mpr ⟨_, _, hstatus,
      readMembers_cons_eq_ok_iff.mpr ⟨_, _, hgrade,
        readMembers_cons_eq_ok_iff.mpr ⟨_, _, hhistory, value_readMembers_nil _, rfl⟩, rfl⟩, rfl⟩
  exact readProperty_eq_some_iff.mpr ⟨rfl, rfl, rfl,
    readType_eq_some_iff.mpr ⟨_, _, rfl, rfl, .inl ⟨rfl, _, _, hmembers, rfl, rfl⟩⟩⟩

theorem value_readSet_condition :
    (readSet conditionRoot "Pset_Condition.xml" "IFC2X3").run.value = .ok conditionSet := by
  have hheader : (readHeader conditionRoot "IFC2X3").run.value =
      .ok { name := "Pset_Condition", version := "IFC2X3", release := "IFC2X3" } := rfl
  have hparts : SetKind.properties.parts conditionRoot =
      .ok { values := [assessmentElement] } := rfl
  have hread : (readParts .properties "Pset_Condition"
      { values := [assessmentElement] }).run.value = .ok [assessmentProperty] := by
    rw [readParts, Attempt.value_bind_ok (a := [assessmentProperty]) ?loop]
    · rfl
    · rw [List.foldlM_cons, Attempt.value_bind_ok (a := [assessmentProperty])]
      · rfl
      · exact Attempt.value_bind_ok value_readProperty_assessment _
  exact readSet_eq_ok rfl rfl hheader hparts hread

/-! ### Predefined definitions -/

/-- The properties of a predefined set have names, whichever family there is. -/
theorem isBlankText_of_mem_allPredefinedSets {s : PredefinedSet} (hs : s ∈ allPredefinedSets)
    (family : Option Family) {entry : String × String}
    (h : entry ∈ s.properties ++ familyPart family s.familyProperties) :
    Text.isBlankText entry.1 = false := by
  revert s entry
  rcases family with _ | (_ | _) <;> decide +kernel

/-- The properties of a predefined set have names, hold single values and carry no identifiers. -/
theorem isNormal_of_mem_predefinedSets {release : String} {pset : PropertySet}
    (h : pset ∈ predefinedSets release) : pset.IsNormal := by
  obtain ⟨s, hs, rfl⟩ := List.mem_map.mp h
  intro p hp
  obtain ⟨entry, hentry, rfl⟩ := List.mem_map.mp hp
  have hnamed := isBlankText_of_mem_allPredefinedSets hs (familyOf release) hentry
  exact ⟨⟨hnamed, nofun, nofun⟩, Property.hasNormalMembers_of_isComplex_eq_false rfl⟩

/-! ### Catalogs of definitions -/

/-- A definition that was read from the root element of a file, or one that is predefined. -/
inductive PropertySet.IsAdmitted : PropertySet → Prop where
  | read {root : Element} {file release : String} {pset : PropertySet}
      (h : (readSet root file release).run.value = .ok pset) : IsAdmitted pset
  | predefined {release : String} {pset : PropertySet} (h : pset ∈ predefinedSets release) :
      IsAdmitted pset

theorem PropertySet.IsAdmitted.isNormal {pset : PropertySet} (h : pset.IsAdmitted) :
    pset.IsNormal := by
  cases h with
  | read h => exact isNormal_of_readSet h
  | predefined h => exact isNormal_of_mem_predefinedSets h

namespace Catalog

/-- A catalog to which definitions were added one by one, each for a release. -/
def ofList (definitions : List (String × PropertySet)) : Catalog :=
  definitions.foldl (fun catalog d => catalog.add d.1 d.2) {}

theorem perm_insert (name : String) (entry : VersionedSet)
    (l : List (String × List VersionedSet)) :
    ((insert name entry l).flatMap (·.2)).Perm (entry :: l.flatMap (·.2)) := by
  induction l with
  | nil => exact .refl _
  | cons head rest ih =>
    obtain ⟨key, entries⟩ := head
    rw [insert]
    split
    · rw [List.flatMap_cons, List.flatMap_cons, List.append_assoc]
      exact List.perm_middle
    · rw [List.flatMap_cons, List.flatMap_cons]
      exact (ih.append_left entries).trans List.perm_middle

/-- A catalog holds one entry more when a definition is added. -/
theorem perm_entries_add (catalog : Catalog) (release : String) (pset : PropertySet) :
    (catalog.add release pset).entries.Perm (⟨release, pset⟩ :: catalog.entries) := by
  -- sorting by name changes the order only, so entries are compared as they were stored
  have hsorted (c : Catalog) : c.entries.Perm (c.definitions.flatMap (·.2)) :=
    (Text.perm_sortBy _ c.definitions).flatMap_right _
  refine (hsorted _).trans (((Text.perm_sortBy _ _).flatMap_right _).trans ?_)
  exact (perm_insert pset.name _ catalog.definitions).trans ((hsorted catalog).symm.cons _)

/-- A catalog holds the definitions that were added to it, each as often as it was added. -/
theorem perm_entries_ofList (definitions : List (String × PropertySet)) :
    (ofList definitions).entries.Perm (definitions.map fun d => ⟨d.1, d.2⟩) := by
  -- the catalog is built from the front, so the last definition is the one that was added last
  induction definitions using List.reverseRecOn with
  | nil => exact (Text.perm_sortBy _ _).flatMap_right _
  | append_singleton definitions d ih =>
    rw [ofList, List.foldl_append, List.map_append]
    refine (perm_entries_add _ d.1 d.2).trans ?_
    exact (ih.cons _).trans (List.perm_append_singleton _ _).symm

/-- A single definition stands under its name. -/
theorem sorted_ofList_singleton (release : String) (pset : PropertySet) :
    (ofList [(release, pset)]).sorted = [(pset.name, [⟨release, pset⟩])] := by
  have hdefinitions : (ofList [(release, pset)]).definitions = [(pset.name, [⟨release, pset⟩])] :=
    List.mergeSort_singleton _
  rw [sorted, hdefinitions]
  exact List.mergeSort_singleton _

variable {definitions : List (String × PropertySet)}

theorem mem_entries_ofList {entry : VersionedSet} :
    entry ∈ (ofList definitions).entries ↔ (entry.release, entry.definition) ∈ definitions := by
  rw [(perm_entries_ofList definitions).mem_iff, List.mem_map]
  constructor
  · rintro ⟨d, hd, rfl⟩
    exact hd
  · intro h
    exact ⟨_, h, rfl⟩

/-- Every leaf in a catalog of definitions is normal and not complex. -/
theorem leaf_ofList (h : ∀ d ∈ definitions, d.2.IsAdmitted) {entry : VersionedSet}
    (hentry : entry ∈ (ofList definitions).entries) {leaf : Option String × Property}
    (hleaf : leaf ∈ entry.definition.leaves) : leaf.2.IsNormal ∧ leaf.2.isComplex = false :=
  (h _ (mem_entries_ofList.mp hentry)).isNormal.leaf hleaf

end Catalog

end PsetCompiler
