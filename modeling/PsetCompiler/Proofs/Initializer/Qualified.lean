import PsetCompiler.Proofs.Enumeration.Collected
import PsetCompiler.Proofs.Initializer.Entry

/-!
# One name for each leaf

Four places go through the leaves of a definition: parameters are named, the names that apply to
entities are listed, the entries of the initializer are built, and enumerations are looked for.
What they emit is matched by name later on, so the names have to be the same, and in the same order.

They are joined from the same parts, but not in the same way.  A name of a parameter has all parts;
a name of an entry leaves out the name of the property that holds the leaf when that is empty.  So
this is where the names part, and the only place.

## Main results

* `map_paramName_eq_iff` — the definitions whose entries have the qualified names.
* `emitters_name_leaves_alike` — **the names agree, and come from the same leaves.**
-/

namespace PsetCompiler

variable {pset : PropertySet}

/-! ### Names of entries -/

/-- The name of an entry is the qualified one, unless the leaf is held by what has no name. -/
theorem entryName_eq_qualifiedName_iff {leaf : Option String × Property} :
    entryName pset (leaf.1.getD "") leaf.2 = pset.qualifiedName leaf ↔ leaf.1 ≠ some "" := by
  obtain ⟨_ | parent, p⟩ := leaf
  · exact iff_of_true rfl nofun
  · rw [PropertySet.qualifiedName, entryName, Option.getD_some, ne_eq, Option.some_inj]
    by_cases hparent : parent = ""
    · refine iff_of_false (fun heq => ?_) (fun h => h hparent)
      -- one of the two points is missing
      have hlength := congrArg String.length heq
      rw [if_pos hparent, hparent] at hlength
      simp only [String.length_append, String.length_empty] at hlength
      have hpoint : ".".length = 1 := rfl
      omega
    · rw [if_neg hparent]
      refine iff_of_true ?_ hparent
      simp only [String.append_assoc]

/-- Leaves are held by what has a name exactly if no complex property with members is without
one. -/
theorem PropertySet.holders_named_iff :
    (∀ leaf ∈ pset.leaves, leaf.1 ≠ some "") ↔
      ∀ p ∈ pset.properties, p.isComplex = true → p.members ≠ [] → p.name ≠ "" := by
  constructor
  · intro hleaves p hp hcomplex hmembers hname
    obtain ⟨m, hm⟩ := List.exists_mem_of_ne_nil _ hmembers
    refine hleaves (some p.name, m) (List.mem_flatMap.mpr ⟨p, hp, ?_⟩) (congrArg some hname)
    rw [Property.leaves, if_pos hcomplex]
    exact List.mem_map_of_mem hm
  · rintro hproperties ⟨holder, m⟩ hleaf rfl
    obtain ⟨p, hp, hleaf⟩ := List.mem_flatMap.mp hleaf
    obtain ⟨hcomplex, hname, hm⟩ := Property.holder_of_mem_leaves hleaf
    exact hproperties p hp hcomplex (List.ne_nil_of_mem hm) hname

/-- Entries have the qualified names of their leaves exactly if no complex property with members is
without a name. -/
theorem map_paramName_eq_iff {version space : String} {entries : List InitEntry}
    (h : AreEntriesOf pset version space pset.leaves entries) :
    entries.map (·.paramName) = pset.qualifiedNames ↔
      ∀ p ∈ pset.properties, p.isComplex = true → p.members ≠ [] → p.name ≠ "" := by
  have hnames : pset.leaves.map (fun leaf => entryName pset (leaf.1.getD "") leaf.2) =
      entries.map (·.paramName) := by
    rw [← List.forall₂_eq_eq_eq, List.forall₂_map_left_iff, List.forall₂_map_right_iff]
    exact h.imp fun leaf entry hentry => (of_buildEntry_eq_ok hentry).1.symm
  rw [← hnames, PropertySet.qualifiedNames_eq, List.map_inj_left, ← PropertySet.holders_named_iff]
  simp only [entryName_eq_qualifiedName_iff]

/-! ### What is emitted -/

/-- Qualified names of parameters are the qualified names. -/
theorem PropertySet.map_fst_parameterNames (pset : PropertySet) :
    (pset.parameterNames true).map (·.1) = pset.qualifiedNames := by
  rw [parameterNames_eq, List.map_map, qualifiedNames_eq]
  refine List.map_congr_left fun leaf _ => ?_
  obtain ⟨_ | parent, p⟩ := leaf <;> rfl

/-- Parameters are made of the properties in which enumerations are looked for. -/
theorem PropertySet.map_snd_parameterNames (pset : PropertySet) (qualified : Bool) :
    (pset.parameterNames qualified).map (·.2) = pset.leafProperties := by
  rw [parameterNames_eq, List.map_map, leafProperties_eq]
  rfl

/-- **The names agree, and come from the same leaves.**  Let no complex property of a definition
have an empty name or a complex member, and let the version of the definition be one that can be
exported.  Then there is a block of the initializer; its entries, the qualified parameters and the
list of qualified names have the same names in the same order.  A parameter and the entry that
stands with it are made of the same property, and these are the properties in which enumerations are
looked for. -/
theorem emitters_name_leaves_alike
    (hnamed : ∀ p ∈ pset.properties, p.isComplex = true → p.name ≠ "")
    (hflat : ∀ p ∈ pset.properties, ∀ m ∈ p.members, m.isComplex = false)
    {release exportFlag : String}
    (hflag : exportFlags.lookup (pset.emitVersion release) = some exportFlag) (space : String) :
    ∃ block, (buildVersionBlock pset release space).run.value = .ok (some block) ∧
      (pset.parameterNames true).map (·.1) = pset.qualifiedNames ∧
      block.entries.map (·.paramName) = pset.qualifiedNames ∧
      (pset.parameterNames true).map (·.2) = pset.leafProperties ∧
      List.Forall₂
        (fun parameter entry => entry.paramName = parameter.1 ∧
          ∃ holder, (buildEntry pset parameter.2 block.version holder space).run.value = .ok entry)
        (pset.parameterNames true) block.entries := by
  obtain ⟨block, hblock, -, hentries⟩ :=
    exists_block_of_lookup (PropertySet.isComplex_eq_false_of_mem_leaves hflat) hflag space
  have hholders : ∀ leaf ∈ pset.leaves, leaf.1 ≠ some "" :=
    PropertySet.holders_named_iff.mpr fun p hp hcomplex _ => hnamed p hp hcomplex
  refine ⟨block, hblock, pset.map_fst_parameterNames,
    (map_paramName_eq_iff hentries).mpr (PropertySet.holders_named_iff.mp hholders),
    pset.map_snd_parameterNames true, ?_⟩
  rw [PropertySet.parameterNames_eq, List.forall₂_map_left_iff]
  refine ((List.forall₂_and_left _ _).mpr ⟨hholders, hentries⟩).imp ?_
  rintro leaf entry ⟨hholder, hentry⟩
  refine ⟨?_, _, hentry⟩
  rw [(of_buildEntry_eq_ok hentry).1, entryName_eq_qualifiedName_iff.mpr hholder]
  obtain ⟨_ | parent, p⟩ := leaf <;> rfl

/-- A set with a complex property between others; one member is an enumeration. -/
def stairSet : PropertySet where
  name := "Pset_StairCommon"
  version := "IFC4"
  release := "IFC4_ADD2"
  properties :=
    [{ name := "NumberOfRiser", valueType := some (.single "IfcCountMeasure") },
      { name := "Tread"
        valueType := some (.complex "Tread"
          [{ name := "Length", valueType := some (.single "IfcPositiveLengthMeasure") },
            { name := "Status", valueType := some (.enumerated "PEnum_Status" [⟨"NEW", []⟩]) }]) },
      { name := "HasRailing" }]

theorem emitters_name_leaves_alike_stair :
    (∀ p ∈ stairSet.properties, p.isComplex = true → p.name ≠ "") ∧
      (∀ p ∈ stairSet.properties, ∀ m ∈ p.members, m.isComplex = false) ∧
      exportFlags.lookup (stairSet.emitVersion "IFC4_ADD2") = some "ExportAs4_ADD2" ∧
      ∃ block, (buildVersionBlock stairSet "IFC4_ADD2" "").run.value = .ok (some block) ∧
        block.entries.map (·.paramName) =
          ["Pset_StairCommon.NumberOfRiser", "Pset_StairCommon.Tread.Length",
            "Pset_StairCommon.Tread.Status", "Pset_StairCommon.HasRailing"] := by
  have hnamed : ∀ p ∈ stairSet.properties, p.isComplex = true → p.name ≠ "" := by decide
  have hflat : ∀ p ∈ stairSet.properties, ∀ m ∈ p.members, m.isComplex = false := by decide
  have hflag : exportFlags.lookup (stairSet.emitVersion "IFC4_ADD2") = some "ExportAs4_ADD2" := by
    decide +kernel
  obtain ⟨block, hblock, -, hnames, -⟩ := emitters_name_leaves_alike hnamed hflat hflag ""
  exact ⟨hnamed, hflat, hflag, block, hblock, hnames.trans (by decide)⟩

end PsetCompiler
