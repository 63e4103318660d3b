import PsetCompiler.Enumeration.Collect
import PsetCompiler.Proofs.Definition.Leaves
import PsetCompiler.Proofs.Entries
import PsetCompiler.Proofs.Outcome
import Mathlib.Data.List.Induction

/-!
# What is collected

Enumerations are collected use by use, and a use is kept when it can be emitted and its key is not
taken.  So under each key the first use that can be emitted is kept, and it is filed under its own
version; later uses under that key add nothing, whatever their versions are.  The key joins version
and name by a point, and since either may hold points, uses of different versions can share a key.

## Main definitions

* `firstUnder` — the first use under a key that can be emitted.
* `EnumUse.IsKept` — a use is that first one.
* `Collection.enumsOf` — what is filed under a version.
* `Collection.Collects` — a collection is what some uses make.

## Main results

* `Collection.add_of_not_isEligible`, `Collection.add_of_free`, `Collection.add_of_taken` — all that
  one more use can do.
* `Collection.Collects.add` — it keeps a collection what the uses make.
* `collects_collectEnums` — **what is collected from a catalog.**
-/

namespace PsetCompiler

/-- Enumerations are looked for in the leaves. -/
theorem PropertySet.leafProperties_eq (pset : PropertySet) :
    pset.leafProperties = pset.leaves.map (·.2) := by
  rw [map_leaves, leafProperties]
  simp only [List.map_id']

/-- The first use under a key that can be emitted. -/
def firstUnder (uses : List EnumUse) (key : String) : Option EnumUse :=
  uses.find? fun use => use.isEligible && use.key == key

theorem firstUnder_eq_some {uses : List EnumUse} {key : String} {use : EnumUse}
    (h : firstUnder uses key = some use) :
    use ∈ uses ∧ use.isEligible ∧ use.key = key := by
  have hfits := List.find?_some h
  rw [Bool.and_eq_true, beq_iff_eq] at hfits
  exact ⟨List.mem_of_find?_eq_some h, hfits⟩

/-- One more use is the first under its key if it can be emitted and there is none before. -/
theorem firstUnder_concat (uses : List EnumUse) (use : EnumUse) (key : String) :
    firstUnder (uses ++ [use]) key =
      (firstUnder uses key).or (if use.isEligible && use.key == key then some use else none) := by
  rw [firstUnder, List.find?_append, List.find?_singleton]
  rfl

namespace Collection

/-- The enumerations that are filed under a version. -/
def enumsOf (c : Collection) (version : String) : List (String × List String) :=
  (c.byVersion.lookup version).getD []

end Collection

/-- What is filed under a version comes behind what is there. -/
theorem lookup_fileUnder (version : String) (enumeration : String × List String)
    (l : List (String × List (String × List String))) (version' : String) :
    (fileUnder version enumeration l).lookup version' =
      if version' = version then some ((l.lookup version).getD [] ++ [enumeration])
      else l.lookup version' := by
  induction l with
  | nil =>
    rw [fileUnder, List.lookup_cons]
    by_cases h : version' = version
    · simp [h]
    · simp [h, beq_eq_false_iff_ne.mpr h]
  | cons head rest ih =>
    obtain ⟨key, found⟩ := head
    rw [fileUnder]
    by_cases hkey : key = version
    · subst hkey
      rw [if_pos rfl, List.lookup_cons, List.lookup_cons_self, List.lookup_cons]
      by_cases h : version' = key
      · simp [h]
      · simp [h, beq_eq_false_iff_ne.mpr h]
    · have hne : (version == key) = false := beq_eq_false_iff_ne.mpr (Ne.symm hkey)
      rw [if_neg hkey, List.lookup_cons, List.lookup_cons, List.lookup_cons, ih, hne]
      by_cases h : version' = key
      · subst h
        simp [hkey]
      · rw [beq_eq_false_iff_ne.mpr h]

/-- A use is kept if it is the first under its key that can be emitted. -/
def EnumUse.IsKept (uses : List EnumUse) (use : EnumUse) : Prop :=
  firstUnder uses use.key = some use

/-- One more use that can be emitted is kept if its key is not taken; what is kept before stays. -/
theorem isKept_concat_iff {uses : List EnumUse} {use : EnumUse} (heligible : use.isEligible)
    (hnew : firstUnder uses use.key = none) (other : EnumUse) :
    other.IsKept (uses ++ [use]) ↔ other.IsKept uses ∨ other = use := by
  unfold EnumUse.IsKept
  rw [firstUnder_concat, heligible, Bool.true_and]
  by_cases hkey : use.key = other.key
  · rw [← hkey, hnew, beq_self_eq_true, if_pos rfl, Option.none_or]
    simp [eq_comm]
  · rw [beq_eq_false_iff_ne.mpr hkey, if_neg Bool.false_ne_true, Option.or_none]
    refine ⟨Or.inl, fun h => h.resolve_right fun heq => hkey (congrArg EnumUse.key heq.symm)⟩

/-- A use that cannot be emitted, or whose key is taken, changes nothing. -/
theorem firstUnder_concat_of_passed {uses : List EnumUse} {use : EnumUse}
    (h : use.isEligible → (firstUnder uses use.key).isSome) (key : String) :
    firstUnder (uses ++ [use]) key = firstUnder uses key := by
  rw [firstUnder_concat]
  split
  · next hfits =>
    rw [Bool.and_eq_true, beq_iff_eq] at hfits
    obtain ⟨first, hfirst⟩ := Option.isSome_iff_exists.mp (h hfits.1)
    rw [← hfits.2, hfirst, Option.some_or]
  · rw [Option.or_none]

namespace Collection

/-! ### One more use -/

section

variable {c : Collection} {use : EnumUse}

/-- A use that cannot be emitted is passed over. -/
theorem add_of_not_isEligible (c : Collection) (h : use.isEligible = false) :
    c.add use = pure c := by
  rw [Collection.add, registerEnum, h]
  rfl

/-- A use whose key is not taken is recorded and filed. -/
theorem add_of_free (heligible : use.isEligible) (hfree : c.emitted.lookup use.key = none) :
    c.add use = pure { c with
      emitted := c.emitted ++ [(use.key, use.values)]
      byVersion := fileUnder use.version (use.name, use.values) c.byVersion } := by
  rw [Collection.add, registerEnum, if_pos heligible, hfree]
  rfl

/-- A use whose key is taken is counted, and it is reported if its items are not those recorded. -/
theorem add_of_taken (heligible : use.isEligible) {kept : List String}
    (htaken : c.emitted.lookup use.key = some kept) :
    c.add use = ⟨{ c with duplicates := c.duplicates + 1 },
      if kept ≠ use.values then [.clashingEnum use.key kept] else []⟩ := by
  rw [Collection.add, registerEnum, if_pos heligible, htaken, heligible]
  dsimp only
  split
  · rfl
  · rfl

end

/-! ### What some uses make -/

/-- A collection is what some uses make: under each key the items of the first use that can be
emitted are recorded, and what is filed under a version are the uses of that version that are kept.
-/
structure Collects (uses : List EnumUse) (c : Collection) : Prop where
  emitted : ∀ key, c.emitted.lookup key = (firstUnder uses key).map (·.values)
  mem_enumsOf_iff : ∀ version name values, (name, values) ∈ c.enumsOf version ↔
    EnumUse.IsKept uses ⟨version, name, values⟩

variable {uses : List EnumUse} {c : Collection}

theorem collects_nil : Collects [] {} where
  emitted _ := rfl
  mem_enumsOf_iff version name values := by
    constructor
    · nofun
    · nofun

/-- One more use that can be emitted under a key that is not taken. -/
theorem Collects.addNew (h : c.Collects uses) {use : EnumUse} (heligible : use.isEligible)
    (hnew : firstUnder uses use.key = none) :
    Collects (uses ++ [use])
      { c with
        emitted := c.emitted ++ [(use.key, use.values)]
        byVersion := fileUnder use.version (use.name, use.values) c.byVersion } := by
  constructor
  · intro key
    rw [firstUnder_concat, List.lookup_append, h.emitted, heligible, Bool.true_and]
    -- the record of one key grows, the others stay
    by_cases hkey : use.key = key
    · subst hkey
      simp [hnew]
    · simp [hkey, List.lookup_cons, beq_eq_false_iff_ne.mpr (Ne.symm hkey)]
  · intro version name values
    rw [isKept_concat_iff heligible hnew, ← h.mem_enumsOf_iff, enumsOf, lookup_fileUnder]
    by_cases hversion : version = use.version
    · subst hversion
      rw [if_pos rfl, Option.getD_some, List.mem_append, List.mem_singleton, Prod.mk.injEq]
      have hsame : (⟨use.version, name, values⟩ : EnumUse) = use ↔
          name = use.name ∧ values = use.values := by
        cases use
        simp
      rw [hsame]
      rfl
    · rw [if_neg hversion]
      refine ⟨Or.inl, fun hmem => hmem.resolve_right fun heq => hversion ?_⟩
      rw [← heq]

/-- One more use that cannot be emitted or whose key is taken. -/
theorem Collects.pass (h : c.Collects uses) {use : EnumUse}
    (hpassed : use.isEligible → (firstUnder uses use.key).isSome) (duplicates : Nat) :
    Collects (uses ++ [use]) { c with duplicates } := by
  constructor
  · intro key
    rw [firstUnder_concat_of_passed hpassed]
    exact h.emitted key
  · intro version name values
    unfold EnumUse.IsKept
    rw [firstUnder_concat_of_passed hpassed]
    exact h.mem_enumsOf_iff version name values

/-- One more use. -/
theorem Collects.add (h : c.Collects uses) (use : EnumUse) :
    Collects (uses ++ [use]) (c.add use).value := by
  cases heligible : use.isEligible with
  | false =>
    rw [add_of_not_isEligible c heligible]
    exact h.pass (fun h' => absurd h' (Bool.eq_false_iff.mp heligible)) c.duplicates
  | true =>
    cases hfirst : firstUnder uses use.key with
    | none =>
      have hfree : c.emitted.lookup use.key = none := by rw [h.emitted, hfirst]; rfl
      rw [add_of_free heligible hfree]
      exact h.addNew heligible hfirst
    | some first =>
      have htaken : c.emitted.lookup use.key = some first.values := by rw [h.emitted, hfirst]; rfl
      rw [add_of_taken heligible htaken]
      exact h.pass (fun _ => by rw [hfirst]; rfl) (c.duplicates + 1)

end Collection

/-- **What is collected from a catalog**: under each key the first use that can be emitted. -/
theorem collects_collectEnums (catalog : Catalog) :
    (collectEnums [] catalog).value.Collects catalog.enumUses := by
  rw [collectEnums, Report.value_foldlM]
  -- the uses are taken from the front, so the invariant is about those before the last one
  induction catalog.enumUses using List.reverseRecOn with
  | nil => exact Collection.collects_nil
  | append_singleton uses use ih =>
    rw [List.foldl_append]
    exact ih.add use

end PsetCompiler
