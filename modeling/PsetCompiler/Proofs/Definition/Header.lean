import PsetCompiler.Proofs.Definition.Property
import PsetCompiler.Proofs.Entries
import PsetCompiler.Definition.Set

/-!
# What reading a header establishes

The classes of a definition come from one of three places.  They are the classes that the definition
names anywhere, with those of a list of entities that stands for its applicable type; where there
are none, they are the ones that are known to be missing; and where none are known, there are no
classes and the lack is reported.  So the report tells whether there are classes.

## Main results

* `exists_of_readHeader` — the parts of a header.
* `classesMissing_mem_log_iff` — the report of missing classes.
* `isClassList_settledClasses` — **no class is empty and none is listed twice.**
-/

namespace PsetCompiler

open Markup (Element)

/-! ### Lists of classes -/

/-- No class is empty, and none is listed twice. -/
structure IsClassList (classes : List String) : Prop where
  filled : "" ∉ classes
  nodup : classes.Nodup

theorem isClassList_of_mem_knownClassTable :
    ∀ entry ∈ knownClassTable, entry.2 ≠ [] ∧ "" ∉ entry.2 ∧ entry.2.Nodup := by
  decide

/-- The classes that are known to be missing are some classes. -/
theorem isClassList_of_knownClasses {version set : String} {classes : List String}
    (h : knownClasses version set = some classes) : classes ≠ [] ∧ IsClassList classes := by
  obtain ⟨entry, hentry, rfl⟩ := Option.map_eq_some_iff.mp h
  obtain ⟨hne, hfilled, hnodup⟩ :=
    isClassList_of_mem_knownClassTable entry (List.mem_of_find?_eq_some hentry)
  exact ⟨hne, hfilled, hnodup⟩

theorem cleanClassName_ne_empty {raw name : String} (h : cleanClassName raw = some name) :
    name ≠ "" := by
  have hstart := List.find?_some h
  rintro rfl
  exact absurd hstart (by decide)

/-- The classes that a definition names are not empty. -/
theorem notMem_namedClasses {root : Element} {named : List String}
    (h : namedClasses root = .ok named) : "" ∉ named := by
  obtain ⟨found, -, h⟩ := except_bind_eq_ok_iff.mp h
  obtain rfl := Except.ok.inj h
  intro hmem
  obtain ⟨e, -, he⟩ := List.mem_filterMap.mp hmem
  obtain ⟨text, -, hname⟩ := Option.bind_eq_some_iff.mp he
  exact cleanClassName_ne_empty hname rfl

theorem notMem_listedNames (s : String) : "" ∉ listedNames s := by
  intro hmem
  simpa using (List.mem_filter.mp hmem).2

/-- Neither are those of a list of entities. -/
theorem notMem_extraClasses (raw : String) : "" ∉ (parseApplicableType raw).extraClasses := by
  unfold parseApplicableType
  dsimp only
  split
  · exact List.not_mem_nil
  · split
    · exact List.not_mem_nil
    · dsimp only
      split
      · exact notMem_listedNames _
      · exact List.not_mem_nil

/-! ### Classes that are settled -/

section

variable (name version : String) (declared : Option String) (named : List String)

/-- The lack of classes is reported, and nothing else is reported so. -/
theorem classesMissing_mem_log_iff (n v : String) :
    .classesMissing n v ∈ (settledClasses name version declared named).log ↔
      (settledClasses name version declared named).value = [] ∧ n = name ∧ v = version := by
  unfold settledClasses
  cases named with
  | cons first rest => simp
  | nil =>
    simp only [List.isEmpty_nil, Bool.not_true, Bool.false_eq_true, if_false]
    split
    · next classes hknown =>
      have hne := (isClassList_of_knownClasses hknown).1
      rw [Report.log_bind, Report.value_bind, Report.log_pure, Report.value_pure]
      simp [report, hne]
    · rw [Report.log_bind, Report.value_bind, Report.log_pure, Report.value_pure]
      simp [report]

theorem isClassList_settledClasses (h : IsClassList named) :
    IsClassList (settledClasses name version declared named).value := by
  unfold settledClasses
  split
  · exact h
  · dsimp only
    split
    · next classes hknown => exact (isClassList_of_knownClasses hknown).2
    · exact ⟨List.not_mem_nil, List.nodup_nil⟩

end

/-! ### Headers -/

/-- The parts of a header that reading tells of, and its reports. -/
theorem exists_of_readHeader {root : Element} {release : String} {header : PropertySet}
    (h : (readHeader root release).run.value = .ok header) :
    ∃ declared named, IsClassList named ∧ root.childText? "Name" = .ok (some header.name) ∧
      (normalizeGuid (root.attribute? "ifdguid") header.name).value = header.ifdGuid ∧
      (settledClasses header.name header.version declared named).value =
        header.applicableClasses ∧
      (readHeader root release).run.log =
        (normalizeGuid (root.attribute? "ifdguid") header.name).log ++
          (settledClasses header.name header.version declared named).log := by
  unfold readHeader at h ⊢
  obtain ⟨name?, hname, h⟩ := Attempt.value_bind_eq_ok_iff.mp h
  cases name? with
  | none => cases h
  | some name =>
    obtain ⟨declared, hdeclared, h⟩ := Attempt.value_bind_eq_ok_iff.mp h
    obtain ⟨ifdGuid, hguid, h⟩ := Attempt.value_bind_eq_ok_iff.mp h
    obtain ⟨named, hnamed, h⟩ := Attempt.value_bind_eq_ok_iff.mp h
    obtain ⟨raw?, hraw, h⟩ := Attempt.value_bind_eq_ok_iff.mp h
    obtain ⟨classes, hclasses, h⟩ := Attempt.value_bind_eq_ok_iff.mp h
    rw [Attempt.value_liftM_except] at hname hdeclared hnamed hraw
    rw [Attempt.value_liftM] at hguid hclasses
    obtain rfl := Except.ok.inj hguid
    obtain rfl := Except.ok.inj hclasses
    cases h
    dsimp only
    refine ⟨declared, (named ++ ((raw?.map parseApplicableType).getD {}).extraClasses).eraseDups,
      ?_, hname, rfl, rfl, ?_⟩
    · refine ⟨?_, nodup_eraseDups _⟩
      rw [List.mem_eraseDups, List.mem_append, not_or]
      refine ⟨notMem_namedClasses hnamed, ?_⟩
      cases raw? with
      | none => exact List.not_mem_nil
      | some raw => exact notMem_extraClasses raw
    · -- only the identifier and the classes are reported of
      rw [Attempt.log_bind_except hname]
      dsimp only
      rw [Attempt.log_bind_except hdeclared, Attempt.log_bind_liftM,
        Attempt.log_bind_except hnamed, Attempt.log_bind_except hraw, Attempt.log_bind_liftM]
      exact congrArg _ (List.append_nil _)

end PsetCompiler
