import PsetCompiler.Proofs.Definition.Parts
import PsetCompiler.Proofs.Definition.Reports

/-!
# The shape of definitions

Whatever the root element holds, a definition that was read from it has properties of different
names, one level of members, names without white space at their ends, identifiers in the written
form, and classes that are not empty and differ.  Where a definition has no classes this is
reported, and it is reported nowhere else: what reading the properties reports is of other kinds.

## Main definitions

* `IsTrimmed`, `IsCanonicalGuid` — what is known of names and of identifiers.
* `PropertySet.IsShaped` — all that is known of a definition by itself and by its element.

## Main results

* `isNeat_of_readPart`, `isNeat_of_mem_members` — properties and their members.
* `isShaped_of_readSet` — **the shape of a definition that was read.**
-/

namespace PsetCompiler

open Markup (Element Found Node)

/-- A text is not empty and has no white space at its ends. -/
structure IsTrimmed (s : String) : Prop where
  filled : s ≠ ""
  strip_eq : Text.strip s = s

/-- There is no identifier, or it is in the written form. -/
def IsCanonicalGuid (guid? : Option String) : Prop :=
  ∀ text ∈ guid?, ∃ g : Guid, text = g.text

/-- The name of a property is trimmed, and its identifier is in the written form. -/
structure Property.IsNeat (p : Property) : Prop where
  name : IsTrimmed p.name
  guid : IsCanonicalGuid p.ifdGuid

/-- What holds of a definition that was read from an element. -/
structure PropertySet.IsShaped (pset : PropertySet) (kind : SetKind) (root : Element)
    (file release : String) : Prop where
  /-- The properties are the first ones of all names among those that are read from their elements,
  in document order, -/
  firsts : ∃ reads, List.Forall₂
      (fun e p? => (kind.readPart pset.name e).run.value = .ok p?) (kind.partElements root) reads ∧
    pset.properties = firstOfEachName (reads.filterMap id)
  /-- so no two of them have one name. -/
  nodup_names : (pset.properties.map (·.name)).Nodup
  /-- Idle elements may be taken away. -/
  idle : ∀ other, kind.LosesIdle root other → (readSet other file release).run.value = .ok pset
  neat : ∀ p ∈ pset.properties, p.IsNeat
  members : ∀ p ∈ pset.properties, ∀ m ∈ p.members, m.IsNeat ∧ m.isComplex = false
  guid : IsCanonicalGuid pset.ifdGuid
  classes : IsClassList pset.applicableClasses
  /-- Missing classes are reported, and only they are. -/
  classesMissing_iff : ∀ name version,
    .classesMissing name version ∈ (readSet root file release).run.log ↔
      pset.applicableClasses = [] ∧ name = pset.name ∧ version = pset.version

/-! ### Properties and their members -/

theorem isTrimmed_of_childText? {e : Element} {child text : String}
    (h : e.childText? child = .ok (some text)) : IsTrimmed text := by
  obtain ⟨hne, raw, rfl⟩ := exists_strip_of_childText? h
  exact ⟨hne, Text.strip_strip raw⟩

theorem isNeat_of_readProperty {set : String} {e : Element} {p : Property}
    (h : (readProperty set e).run.value = .ok (some p)) : p.IsNeat := by
  obtain ⟨hname, -⟩ := readProperty_eq_some_iff.mp h
  exact ⟨isTrimmed_of_childText? hname, (isNormal_of_readProperty h).guid⟩

theorem isNeat_of_readPart {kind : SetKind} {set : String} {e : Element} {p : Property}
    (h : (kind.readPart set e).run.value = .ok (some p)) : p.IsNeat := by
  cases kind with
  | properties => exact isNeat_of_readProperty h
  | quantities =>
    obtain ⟨hname, -⟩ := of_readQuantity h
    exact ⟨isTrimmed_of_childText? hname, (isNormal_of_readQuantity h).1.guid⟩

/-- Quantities have no members; those of complex properties were read like properties. -/
theorem isNeat_of_mem_members {kind : SetKind} {set : String} {e : Element} {p m : Property}
    (h : (kind.readPart set e).run.value = .ok (some p)) (hm : m ∈ p.members) :
    m.IsNeat ∧ m.isComplex = false := by
  cases kind with
  | properties =>
    obtain ⟨hsimple, place, e', hread⟩ := exists_read_of_mem_members h hm
    exact ⟨isNeat_of_readProperty hread, hsimple⟩
  | quantities =>
    have hsimple := (isNormal_of_readQuantity h).2
    rw [Property.members_eq_nil hsimple] at hm
    cases hm

/-! ### Definitions -/

/-- The header reports missing classes, and the properties never do. -/
theorem classesMissing_mem_readSet_iff {root : Element} {file release : String}
    {pset : PropertySet} (h : (readSet root file release).run.value = .ok pset)
    (name version : String) :
    .classesMissing name version ∈ (readSet root file release).run.log ↔
      pset.applicableClasses = [] ∧ name = pset.name ∧ version = pset.version := by
  obtain ⟨kind, header, found, properties, -, -, hheader, -, -, rfl, hlog⟩ := exists_of_readSet h
  obtain ⟨declared, named, -, -, -, hclasses, hheaderLog⟩ := exists_of_readHeader hheader
  have hguid : .classesMissing name version ∉
      (normalizeGuid (root.attribute? "ifdguid") header.name).log := by
    intro hmem
    cases logs_normalizeGuid _ _ _ hmem
  have hparts : .classesMissing name version ∉ (readParts kind header.name found).run.log := by
    intro hmem
    cases logs_readParts _ _ _ _ hmem
  rw [hlog, hheaderLog, List.mem_append, List.mem_append]
  simp only [hguid, hparts, false_or, or_false]
  rw [classesMissing_mem_log_iff, hclasses]

/-- **The shape of a definition that was read**, whatever its element holds. -/
theorem isShaped_of_readSet {root : Element} {file release : String} {pset : PropertySet}
    (h : (readSet root file release).run.value = .ok pset) :
    ∃ kind, SetKind.ofRoot? root.name = some kind ∧ pset.IsShaped kind root file release := by
  obtain ⟨kind, header, found, properties, hkind, -, hheader, hfound, hproperties, hpset, -⟩ :=
    exists_of_readSet h
  obtain ⟨declared, named, hnamed, -, hguid, hclasses, -⟩ := exists_of_readHeader hheader
  obtain ⟨⟨all, hall⟩, reads, hreads, hfirsts⟩ := readParts_eq_ok_iff.mp hproperties
  -- what is there was read from an element
  have hread : ∀ p ∈ properties, ∃ e, (kind.readPart header.name e).run.value = .ok (some p) := by
    intro p hp
    rw [hfirsts] at hp
    obtain ⟨p?, hp?, rfl⟩ := List.mem_filterMap.mp (firstOfEachName_subset _ hp)
    obtain ⟨e, -, he⟩ := exists_left_of_mem hreads hp?
    exact ⟨e, he⟩
  have hmissing := classesMissing_mem_readSet_iff h
  subst hpset
  refine ⟨kind, hkind, ?_⟩
  refine
    { firsts := ⟨reads, ?_, hfirsts⟩
      nodup_names := ?_
      idle := fun other hother => value_readSet_of_losesIdle hkind h hother
      neat := ?_
      members := ?_
      guid := ?_
      classes := ?_
      classesMissing_iff := hmissing }
  · rw [← values_of_parts hfound hall]
    exact hreads
  · rw [hfirsts]
    exact nodup_names_firstOfEachName _
  · intro p hp
    obtain ⟨e, he⟩ := hread p hp
    exact isNeat_of_readPart he
  · intro p hp m hm
    obtain ⟨e, he⟩ := hread p hp
    exact isNeat_of_mem_members he hm
  · intro text htext
    exact exists_text_of_normalizeGuid (hguid.trans htext)
  · rw [← hclasses]
    exact isClassList_settledClasses _ _ _ _ hnamed

theorem isShaped_of_readSet_condition :
    (readSet conditionRoot "Pset_Condition.xml" "IFC2X3").run.value = .ok conditionSet ∧
      ∃ kind, SetKind.ofRoot? conditionRoot.name = some kind ∧
        conditionSet.IsShaped kind conditionRoot "Pset_Condition.xml" "IFC2X3" :=
  ⟨value_readSet_condition, isShaped_of_readSet value_readSet_condition⟩

end PsetCompiler
