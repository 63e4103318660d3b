import PsetCompiler.Proofs.Entity.Query
import Mathlib.Data.List.Chain

/-!
# Supertypes up to a stop

The supertypes of an entity are collected along its way up, and the first stop that is met ends
them.  Whether an entity inherits from another is asked of the same way up, so it can be told from
the end of the supertypes up to that other: either they end with its name, or it is not on the way
at all.

## Main definitions

* `IsStop` — a name is among the stops, whatever the case of its letters.
* `EndsAtStop` — a list cut behind its first stop.
* `Forest.Supertypes` — what the supertypes up to any stops are.

## Main results

* `endsAtStop_throughFirst` — collecting up to the first stop cuts behind it.
* `Forest.WellFormed.isSubtypeOf_iff_getLast?` — inheritance told by the end of the supertypes.
* `Forest.supertypes_addRecords` — **the supertypes are the way up, cut behind the first stop.**
-/

namespace PsetCompiler

/-! ### Lists cut behind a stop -/

/-- A name is among the stops, whatever the case of its letters. -/
def IsStop (stops : List String) (name : String) : Prop :=
  Text.foldCase name ∈ stops.map Text.foldCase

/-- A list of names, up to and including the first stop in it. -/
inductive EndsAtStop (stops : List String) : List String → List String → Prop
  /-- There is no stop, so nothing is cut off. -/
  | whole {names : List String} (h : ∀ name ∈ names, ¬ IsStop stops name) :
      EndsAtStop stops names names
  /-- Behind the first stop the rest is cut off. -/
  | cut {passed rest : List String} {name : String} (hpassed : ∀ p ∈ passed, ¬ IsStop stops p)
      (hname : IsStop stops name) :
      EndsAtStop stops (passed ++ name :: rest) (passed ++ [name])

namespace EndsAtStop

variable {stops names kept : List String}

theorem cons {name : String} (h : EndsAtStop stops names kept) (hname : ¬ IsStop stops name) :
    EndsAtStop stops (name :: names) (name :: kept) := by
  cases h with
  | whole h => exact .whole (List.forall_mem_cons.mpr ⟨hname, h⟩)
  | cut hpassed hstop =>
    exact @EndsAtStop.cut _ (name :: _) _ _ (List.forall_mem_cons.mpr ⟨hname, hpassed⟩) hstop

theorem isPrefix (h : EndsAtStop stops names kept) : kept <+: names := by
  cases h with
  | whole => exact List.prefix_rfl
  | @cut passed rest name => exact ⟨rest, by rw [List.append_assoc, List.singleton_append]⟩

/-- A list ends with a stop if there is one. -/
theorem exists_getLast?_iff (h : EndsAtStop stops names kept) :
    (∃ name, kept.getLast? = some name ∧ IsStop stops name) ↔
      ∃ name ∈ names, IsStop stops name := by
  cases h with
  | whole h =>
    constructor
    · rintro ⟨name, hlast, hstop⟩
      exact ⟨name, List.mem_of_getLast? hlast, hstop⟩
    · rintro ⟨name, hmem, hstop⟩
      exact absurd hstop (h name hmem)
  | @cut passed rest name _ hname =>
    refine iff_of_true ⟨name, ?_, hname⟩ ⟨name, by simp, hname⟩
    rw [List.getLast?_concat]

end EndsAtStop

namespace Forest

variable {forest : Forest}

/-- Collecting up to the first stop cuts behind it. -/
theorem endsAtStop_throughFirst (stops names : List String) :
    EndsAtStop stops names (throughFirst
      (fun name => (stops.map Text.foldCase).contains (Text.foldCase name)) names) := by
  induction names with
  | nil => exact .whole (by simp)
  | cons name names ih =>
    rw [throughFirst]
    split
    · next hstop => exact @EndsAtStop.cut _ [] _ _ nofun (List.contains_iff_mem.mp hstop)
    · next hstop => exact ih.cons (mt List.contains_iff_mem.mpr hstop)

/-! ### Names along a way up -/

/-- The first name is that of an entity, the second that of its parent. -/
def NamesParent (forest : Forest) (child parent : String) : Prop :=
  ∃ key above, forest.HasParent key above ∧ forest.nameOf key = child ∧
    forest.nameOf above = parent

/-- Along a way up, each key is the parent of the one before. -/
theorem Climbs.isChain {key : String} {above : List String} (h : forest.Climbs key above) :
    (key :: above).IsChain forest.HasParent := by
  induction h with
  | root => exact .singleton _
  | up hparent _ ih => exact .cons_cons hparent ih

theorem Climbs.isChain_names {key : String} {above : List String} (h : forest.Climbs key above) :
    ((key :: above).map forest.nameOf).IsChain forest.NamesParent := by
  rw [List.isChain_map]
  exact h.isChain.imp fun key above hparent => ⟨key, above, hparent, rfl, rfl⟩

/-! ### The supertypes -/

theorem supertypes_of_unknown {entity : String} (hnone : forest.key? entity = none)
    (stops : List String) : forest.supertypes entity stops = [] := by
  rw [supertypes, hnone]

/-- An entity that is itself a stop has no supertypes; those of another end at the first stop. -/
theorem supertypes_of_key? {entity key : String} (hkey : forest.key? entity = some key)
    (stops : List String) :
    (IsStop stops (forest.nameOf key) → forest.supertypes entity stops = []) ∧
      (¬ IsStop stops (forest.nameOf key) →
        EndsAtStop stops ((forest.ancestors key).map forest.nameOf)
          (forest.supertypes entity stops)) := by
  rw [supertypes, hkey]
  constructor
  · intro hstop
    exact if_pos (List.contains_iff_mem.mpr hstop)
  · intro hstop
    dsimp only
    rw [if_neg (mt List.contains_iff_mem.mp hstop)]
    exact endsAtStop_throughFirst stops _

/-- The supertypes are a part of the way up, at its beginning. -/
theorem supertypes_isPrefix {entity key : String} (hkey : forest.key? entity = some key)
    (stops : List String) :
    forest.supertypes entity stops <+: (forest.ancestors key).map forest.nameOf := by
  obtain ⟨hempty, hends⟩ := supertypes_of_key? hkey stops
  by_cases hstop : IsStop stops (forest.nameOf key)
  · rw [hempty hstop]
    exact List.nil_prefix
  · exact (hends hstop).isPrefix

/-- With the name of the entity itself they begin as the way up does. -/
theorem exists_key_cons_supertypes_isPrefix {entity : String} {e : Entity}
    (hfound : forest.find? entity = some e) (stops : List String) :
    ∃ key ∈ forest.entities.map (·.1), e.name :: forest.supertypes entity stops <+:
      (key :: forest.ancestors key).map forest.nameOf := by
  obtain ⟨key, hkey, he⟩ := find?_eq_some_iff.mp hfound
  refine ⟨key, mem_keys_of_entity? he, ?_⟩
  rw [List.map_cons, nameOf_of_entity? he, List.prefix_cons_inj]
  exact supertypes_isPrefix hkey stops

namespace WellFormed

variable (h : forest.WellFormed)
include h

/-- Inheritance told by the end of the supertypes. -/
theorem isSubtypeOf_iff_getLast? {entity other key above : String}
    (hkey : forest.key? entity = some key) (habove : forest.key? other = some above) :
    forest.isSubtypeOf entity other true = true ↔
      (forest.supertypes entity [other]).getLast? = some (forest.nameOf above) := by
  have hstored := h.ancestors_subset_keys (key?_eq_some_iff.mp hkey).2.2
  have hfold : above = Text.foldCase other := (key?_eq_some_iff.mp habove).2.1
  -- on the way up, and for the entity itself, the stop is the one key
  have hstop {k : String} (hk : k ∈ forest.entities.map (·.1)) :
      IsStop [other] (forest.nameOf k) ↔ k = above := by
    rw [IsStop, List.map_singleton, List.mem_singleton, h.foldCase_nameOf hk, hfold]
  rw [h.isSubtypeOf_iff, hkey, habove]
  simp only [Option.some.injEq, exists_and_left, exists_eq_left', if_true]
  rw [← h.mem_ancestors_iff]
  constructor
  · intro hmem
    have hself : ¬ IsStop [other] (forest.nameOf key) := by
      rw [hstop (key?_eq_some_iff.mp hkey).2.2]
      rintro rfl
      exact (h.climbs_ancestors key).notMem_self hmem
    have hends := (supertypes_of_key? hkey [other]).2 hself
    obtain ⟨name, hlast, hname⟩ := hends.exists_getLast?_iff.mpr
      ⟨forest.nameOf above, List.mem_map_of_mem hmem, (hstop (hstored hmem)).mpr rfl⟩
    obtain ⟨k, hk, rfl⟩ := List.mem_map.mp (hends.isPrefix.subset (List.mem_of_getLast? hlast))
    rw [hlast, (hstop (hstored hk)).mp hname]
  · intro hlast
    have hmem := (supertypes_isPrefix hkey [other]).subset (List.mem_of_getLast? hlast)
    obtain ⟨k, hk, hname⟩ := List.mem_map.mp hmem
    have habove := (key?_eq_some_iff.mp habove).2.2
    rwa [← h.foldCase_nameOf habove, ← hname, h.foldCase_nameOf (hstored hk)]

end WellFormed

/-- What the supertypes of the entities of a forest are, up to any stops. -/
structure Supertypes (forest : Forest) : Prop where
  /-- What is no entity has none, -/
  of_unknown : ∀ entity stops, forest.contains entity = false →
    forest.supertypes entity stops = []
  /-- and neither has an entity that is itself a stop. -/
  of_stop : ∀ entity stops e, forest.find? entity = some e → IsStop stops e.name →
    forest.supertypes entity stops = []
  /-- Of any other they are the way up, up to and including the first stop. -/
  endsAtStop : ∀ entity stops key, forest.key? entity = some key →
    ¬ IsStop stops (forest.nameOf key) → ∃ above, forest.Climbs key above ∧
      EndsAtStop stops (above.map forest.nameOf) (forest.supertypes entity stops)
  /-- Behind the entity, each one is the parent of the one before, -/
  isChain : ∀ entity stops e, forest.find? entity = some e →
    (e.name :: forest.supertypes entity stops).IsChain forest.NamesParent
  /-- and no two are the same. -/
  nodup : ∀ entity stops e, forest.find? entity = some e →
    (e.name :: forest.supertypes entity stops).Nodup
  /-- One entity inherits from another if its supertypes up to that one end with it. -/
  isSubtypeOf_iff : ∀ a b e, forest.contains a = true → forest.find? b = some e →
    (forest.isSubtypeOf a b true = true ↔
      forest.supertypes a [b] ≠ [] ∧ (forest.supertypes a [b]).getLast? = some e.name)
  /-- So the two answers that a check shows agree. -/
  checked : ∀ a b e, forest.contains a = true → forest.find? b = some e →
    let chain := forest.supertypes a [b]
    ∃ holds, forest.checked? a b true = some (holds, chain) ∧
      (holds = true ↔ chain ≠ [] ∧ chain.getLast? = some e.name)

/-- The supertypes are the way up, cut behind the first stop, in every well-formed forest. -/
theorem WellFormed.supertypes_cut (h : forest.WellFormed) : forest.Supertypes := by
  have hsubtype (a b : String) (e : Entity) (ha : forest.contains a = true)
      (hb : forest.find? b = some e) : forest.isSubtypeOf a b true = true ↔
        forest.supertypes a [b] ≠ [] ∧ (forest.supertypes a [b]).getLast? = some e.name := by
    obtain ⟨key, hkey⟩ := Option.isSome_iff_exists.mp ha
    obtain ⟨above, habove, he⟩ := find?_eq_some_iff.mp hb
    rw [h.isSubtypeOf_iff_getLast? hkey habove, nameOf_of_entity? he]
    refine ⟨fun hlast => ⟨?_, hlast⟩, And.right⟩
    rintro hnil
    rw [hnil] at hlast
    cases hlast
  refine
    { of_unknown := ?_
      of_stop := ?_
      endsAtStop := ?_
      isChain := ?_
      nodup := ?_
      isSubtypeOf_iff := hsubtype
      checked := ?_ }
  · intro entity stops hunknown
    have hnone : forest.key? entity = none := by simpa [contains] using hunknown
    exact supertypes_of_unknown hnone stops
  · intro entity stops e hfound hstop
    obtain ⟨key, hkey, he⟩ := find?_eq_some_iff.mp hfound
    rw [← nameOf_of_entity? he] at hstop
    exact (supertypes_of_key? hkey stops).1 hstop
  · intro entity stops key hkey hstop
    exact ⟨forest.ancestors key, h.climbs_ancestors key, (supertypes_of_key? hkey stops).2 hstop⟩
  · intro entity stops e hfound
    obtain ⟨key, -, rest, heq⟩ := exists_key_cons_supertypes_isPrefix hfound stops
    have hchain := (h.climbs_ancestors key).isChain_names
    rw [← heq] at hchain
    exact hchain.left_of_append
  · intro entity stops e hfound
    obtain ⟨key, hkey, hbegins⟩ := exists_key_cons_supertypes_isPrefix hfound stops
    refine List.Nodup.sublist hbegins.sublist ?_
    refine h.nodup_map_nameOf (h.climbs_ancestors key).nodup ?_
    exact List.cons_subset.mpr ⟨hkey, h.ancestors_subset_keys hkey⟩
  · intro a b e ha hb
    exact ⟨_, if_pos ha, hsubtype a b e ha hb⟩

/-- **The supertypes are the way up, cut behind the first stop**, in every forest that declarations
make: for any entity, known or not, and any stops. They tell what the question about inheritance
tells, and a check gives both answers. -/
theorem supertypes_addRecords (version : String) (enums : List (String × List String))
    (records : List EntityRecord) :
    (addRecords { version, predefinedTypeEnums := enums } records).value.Supertypes :=
  ((wellFormed_empty version enums).addRecords records).supertypes_cut

end Forest

end PsetCompiler
