import PsetCompiler.Proofs.Entity.Inheritance

/-!
# Answers about inheritance

Names are looked up by their case folding, and answers give names back.  Nothing is lost on the way:
in a well-formed forest the name of an entity leads back to its key, so different keys have
different names, and what is known of the ways and walks between keys can be said of names.

## Main definitions

* `Forest.BothWays` — what the questions of both directions have in common.

## Main results

* `Forest.key?_eq_some_iff`, `Forest.WellFormed.key?_nameOf` — from names to keys and back.
* `Forest.WellFormed.isSubtypeOf_iff`, `Forest.WellFormed.mem_branch_iff` — the answers, by the
  relation between keys.
* `Forest.bothWays_addRecords` — **both directions agree in every forest that declarations make.**
-/

namespace PsetCompiler

open Relation (ReflTransGen TransGen)

namespace Forest

variable {forest : Forest}

/-! ### From names to keys and back -/

theorem key?_eq_some_iff {name key : String} :
    forest.key? name = some key ↔
      name ≠ "" ∧ key = Text.foldCase name ∧ key ∈ forest.entities.map (·.1) := by
  rw [key?]
  split
  · next hempty => simp [hempty]
  · next hfilled =>
    split
    · next hsome =>
      have hmem := lookup_isSome_iff_mem_keys.mp hsome
      constructor
      · intro heq
        obtain rfl := Option.some.inj heq
        exact ⟨hfilled, rfl, hmem⟩
      · rintro ⟨-, rfl, -⟩
        rfl
    · next hnone =>
      refine ⟨nofun, ?_⟩
      rintro ⟨-, rfl, hmem⟩
      exact absurd (lookup_isSome_iff_mem_keys.mpr hmem) hnone

theorem find?_eq_some_iff {name : String} {e : Entity} :
    forest.find? name = some e ↔
      ∃ key, forest.key? name = some key ∧ forest.entity? key = some e :=
  Option.bind_eq_some_iff

theorem exists_entity? {key : String} (hkey : key ∈ forest.entities.map (·.1)) :
    ∃ e, forest.entity? key = some e :=
  Option.isSome_iff_exists.mp (lookup_isSome_iff_mem_keys.mpr hkey)

theorem mem_keys_of_entity? {key : String} {e : Entity} (h : forest.entity? key = some e) :
    key ∈ forest.entities.map (·.1) :=
  mem_keys_of_lookup h

theorem nameOf_of_entity? {key : String} {e : Entity} (h : forest.entity? key = some e) :
    forest.nameOf key = e.name := by
  rw [nameOf, h]
  rfl

/-- A name that is found is found as an entity. -/
theorem exists_find?_of_key? {name key : String} (h : forest.key? name = some key) :
    ∃ e, forest.find? name = some e ∧ forest.entity? key = some e := by
  obtain ⟨e, he⟩ := exists_entity? (key?_eq_some_iff.mp h).2.2
  exact ⟨e, find?_eq_some_iff.mpr ⟨key, h, he⟩, he⟩

theorem isEntityName_ne_empty {name : String} (h : PsetCompiler.isEntityName name = true) :
    name ≠ "" := by
  rintro rfl
  exact absurd h (by decide)

/-! ### Roots -/

theorem mem_roots_iff {key : String} :
    key ∈ forest.roots ↔
      key ∈ forest.entities.map (·.1) ∧ forest.parent? key = none := by
  rw [roots, List.mem_map, List.mem_map]
  simp only [List.mem_filter, sorted, Text.mem_sortBy, Option.isNone_iff_eq_none]
  constructor
  · rintro ⟨entry, ⟨hentry, hnone⟩, rfl⟩
    exact ⟨⟨entry, hentry, rfl⟩, hnone⟩
  · rintro ⟨⟨entry, hentry, rfl⟩, hnone⟩
    exact ⟨entry, ⟨hentry, hnone⟩, rfl⟩

theorem roots_subset_keys : forest.roots ⊆ forest.entities.map (·.1) :=
  fun _ hroot => (mem_roots_iff.mp hroot).1

/-- No root is below another. -/
theorem eq_of_below_of_mem_roots {root other : String} (hroot : root ∈ forest.roots)
    (hbelow : forest.Below root other) : root = other :=
  eq_of_below_of_parent?_eq_none (mem_roots_iff.mp hroot).2 hbelow

namespace WellFormed

variable (h : forest.WellFormed)
include h

/-- The name of an entity leads back to its key. -/
theorem key?_name {key : String} {e : Entity} (he : forest.entity? key = some e) :
    forest.key? e.name = some key := by
  have hmem : (key, e) ∈ forest.entities := mem_of_lookup he
  exact key?_eq_some_iff.mpr
    ⟨isEntityName_ne_empty (h.isEntityName _ hmem), h.key_eq _ hmem, mem_keys_of_entity? he⟩

theorem find?_name {key : String} {e : Entity} (he : forest.entity? key = some e) :
    forest.find? e.name = some e :=
  find?_eq_some_iff.mpr ⟨key, h.key?_name he, he⟩

theorem key?_nameOf {key : String} (hkey : key ∈ forest.entities.map (·.1)) :
    forest.key? (forest.nameOf key) = some key := by
  obtain ⟨e, he⟩ := exists_entity? hkey
  rw [nameOf_of_entity? he]
  exact h.key?_name he

theorem foldCase_nameOf {key : String} (hkey : key ∈ forest.entities.map (·.1)) :
    Text.foldCase (forest.nameOf key) = key :=
  (key?_eq_some_iff.mp (h.key?_nameOf hkey)).2.1.symm

/-- Different keys have different names. -/
theorem nodup_map_nameOf {keys : List String} (hnodup : keys.Nodup)
    (hstored : keys ⊆ forest.entities.map (·.1)) : (keys.map forest.nameOf).Nodup := by
  refine List.Nodup.map_on ?_ hnodup
  intro key hkey other hother heq
  rw [← h.foldCase_nameOf (hstored hkey), heq, h.foldCase_nameOf (hstored hother)]

theorem map_nameOf_keys :
    (forest.entities.map (·.1)).map forest.nameOf = forest.entities.map (·.2.name) := by
  rw [List.map_map]
  refine List.map_congr_left fun entry hentry => nameOf_of_entity? ?_
  exact (lookup_eq_some_iff_mem h.nodup_keys).mpr hentry

/-! ### The answers -/

/-- The question upward: both names are found, and the one key is below the other. -/
theorem isSubtypeOf_iff {a b : String} {strict : Bool} :
    forest.isSubtypeOf a b strict = true ↔
      ∃ key above, forest.key? a = some key ∧ forest.key? b = some above ∧
        if strict then forest.StrictlyBelow key above else forest.Below key above := by
  rw [isSubtypeOf]
  split
  · next key above ha hb =>
    rw [ha, hb]
    simp only [Option.some.injEq, exists_and_left, exists_eq_left']
    by_cases heq : key = above
    · subst heq
      cases strict <;> simp [below_iff, h.not_strictlyBelow_self]
    · rw [if_neg heq, List.contains_iff_mem, h.mem_ancestors_iff]
      cases strict <;> simp [below_iff, heq]
  · next hnone =>
    refine iff_of_false Bool.false_ne_true ?_
    rintro ⟨key, above, ha, hb, -⟩
    exact hnone key above ha hb

/-- The question downward has the same answer. -/
theorem isSubtypeOf_eq_isSupertypeOf (a b : String) (strict : Bool) :
    forest.isSubtypeOf a b strict = forest.isSupertypeOf b a strict := by
  rw [isSubtypeOf, isSupertypeOf]
  cases ha : forest.key? a with
  | none => cases forest.key? b <;> rfl
  | some key =>
    cases hb : forest.key? b with
    | none => rfl
    | some above =>
      dsimp only
      -- one looks among the ancestors, the other among the descendants of the other key
      by_cases heq : key = above
      · rw [if_pos heq, if_pos heq.symm]
      · rw [if_neg heq, if_neg (Ne.symm heq), Bool.eq_iff_iff, List.contains_iff_mem,
          List.contains_iff_mem, h.mem_ancestors_iff, h.mem_descendants_iff]

/-- A branch holds the names of the keys below its own. -/
theorem mem_branch_iff {root name : String} :
    name ∈ forest.branch root ↔
      ∃ above, forest.key? root = some above ∧
        ∃ key, forest.Below key above ∧ forest.nameOf key = name := by
  rw [branch]
  split
  · next hnone => simp [hnone]
  · next above hroot =>
    rw [List.mem_map, hroot]
    simp only [h.mem_cons_descendants_iff, Option.some.injEq, exists_eq_left']

/-- An entity is in a branch if its key is below that of the branch. -/
theorem name_mem_branch_iff {root above key : String} {e : Entity}
    (hroot : forest.key? root = some above) (he : forest.entity? key = some e) :
    e.name ∈ forest.branch root ↔ forest.Below key above := by
  rw [h.mem_branch_iff, hroot]
  simp only [Option.some.injEq, exists_eq_left']
  constructor
  · rintro ⟨other, hbelow, hname⟩
    have hother := h.mem_keys_of_above hbelow (key?_eq_some_iff.mp hroot).2.2
    have hkey : other = key := by
      rw [← h.foldCase_nameOf hother, hname, ← nameOf_of_entity? he,
        h.foldCase_nameOf (mem_keys_of_entity? he)]
    rwa [← hkey]
  · intro hbelow
    exact ⟨key, hbelow, nameOf_of_entity? he⟩

/-- A branch holds names of entities. -/
theorem exists_entity_of_mem_branch {root name : String} (hname : name ∈ forest.branch root) :
    ∃ key e, forest.entity? key = some e ∧ e.name = name := by
  obtain ⟨above, hroot, key, hbelow, rfl⟩ := h.mem_branch_iff.mp hname
  obtain ⟨e, he⟩ :=
    exists_entity? (h.mem_keys_of_above hbelow (key?_eq_some_iff.mp hroot).2.2)
  exact ⟨key, e, he, (nameOf_of_entity? he).symm⟩

/-! ### The branches of several keys -/

/-- The branches of some keys hold the names of the walks down from them. -/
theorem flatMap_branch_nameOf {keys : List String} (hkeys : keys ⊆ forest.entities.map (·.1)) :
    (keys.flatMap fun key => forest.branch (forest.nameOf key)) =
      (keys.flatMap fun key => key :: forest.descendants key).map forest.nameOf := by
  rw [List.map_flatMap]
  refine List.flatMap_congr fun key hkey => ?_
  rw [branch, h.key?_nameOf (hkeys hkey)]

theorem descendants_subset_keys {keys : List String} (hkeys : keys ⊆ forest.entities.map (·.1)) :
    (keys.flatMap fun key => key :: forest.descendants key) ⊆ forest.entities.map (·.1) := by
  intro x hx
  obtain ⟨key, hkey, hx⟩ := List.mem_flatMap.mp hx
  exact h.mem_keys_of_above (h.mem_cons_descendants_iff.mp hx) (hkeys hkey)

/-- The branches of keys of which no two are below each other hold no name twice. -/
theorem nodup_flatMap_branch {keys : List String} (hkeys : keys ⊆ forest.entities.map (·.1))
    (hnodup : keys.Nodup)
    (hapart : ∀ key ∈ keys, ∀ other ∈ keys, forest.Below key other → key = other) :
    (keys.flatMap fun key => forest.branch (forest.nameOf key)).Nodup := by
  rw [h.flatMap_branch_nameOf hkeys]
  exact h.nodup_map_nameOf (h.nodup_flatMap_descendants hnodup hapart)
    (h.descendants_subset_keys hkeys)

theorem nodup_branch (root : String) : (forest.branch root).Nodup := by
  rw [branch]
  split
  · exact .nil
  · next key hroot =>
    refine h.nodup_map_nameOf (h.nodup_cons_descendants key) ?_
    have hkey : [key] ⊆ forest.entities.map (·.1) := by
      simpa using (key?_eq_some_iff.mp hroot).2.2
    have hsub := h.descendants_subset_keys hkey
    rwa [List.flatMap_singleton] at hsub

/-! ### The branches of the roots -/

theorem nodup_roots : forest.roots.Nodup := by
  have hsorted : (forest.sorted.map (·.1)).Nodup :=
    ((Text.perm_sortBy _ _).map _).nodup_iff.mpr h.nodup_keys
  exact hsorted.sublist (List.filter_sublist.map _)

/-- Every key is below a root. -/
theorem exists_root_above {key : String} (hkey : key ∈ forest.entities.map (·.1)) :
    ∃ root ∈ forest.roots, forest.Below key root := by
  obtain ⟨above, habove⟩ := h.grounded key
  induction habove with
  | @root key hroot => exact ⟨key, mem_roots_iff.mpr ⟨hkey, hroot⟩, .refl⟩
  | up hparent _ ih =>
    obtain ⟨root, hmem, hbelow⟩ := ih (h.links_stored hparent).2
    exact ⟨root, hmem, .head hparent hbelow⟩

/-- The branches of the roots hold every name once. -/
theorem perm_flatMap_branch_roots :
    (forest.roots.flatMap fun root => forest.branch (forest.nameOf root)).Perm
      (forest.entities.map (·.2.name)) := by
  -- both lists have no key twice, so it is enough that they have the same keys
  have hkeys : (forest.roots.flatMap fun root => root :: forest.descendants root).Perm
      (forest.entities.map (·.1)) := by
    refine (List.perm_ext_iff_of_nodup ?_ h.nodup_keys).mpr fun key => ⟨?_, fun hkey => ?_⟩
    · exact h.nodup_flatMap_descendants h.nodup_roots
        fun _ hroot _ _ => eq_of_below_of_mem_roots hroot
    · exact fun hkey => h.descendants_subset_keys roots_subset_keys hkey
    · obtain ⟨root, hroot, hbelow⟩ := h.exists_root_above hkey
      exact List.mem_flatMap.mpr ⟨root, hroot, h.mem_cons_descendants_iff.mpr hbelow⟩
  rw [h.flatMap_branch_nameOf roots_subset_keys, ← h.map_nameOf_keys]
  exact hkeys.map _

end WellFormed

/-! ### Both directions -/

/-- What the questions upward and the questions downward have in common. -/
structure BothWays (forest : Forest) : Prop where
  /-- One entity inherits from another if the other is above it. -/
  subtype_eq_supertype : ∀ a b strict,
    forest.isSubtypeOf a b strict = forest.isSupertypeOf b a strict
  /-- An entity inherits from another or equals it if it is in the branch of the other. -/
  subtype_iff_mem_branch : ∀ a b e, forest.find? a = some e → forest.contains b = true →
    (forest.isSubtypeOf a b false = true ↔ e.name ∈ forest.branch b)
  /-- No entity inherits from itself. -/
  irrefl : ∀ a, forest.isSubtypeOf a a true = false
  /-- Who inherits from an heir inherits. -/
  trans : ∀ a b c, forest.isSubtypeOf a b true = true → forest.isSubtypeOf b c true = true →
    forest.isSubtypeOf a c true = true
  /-- No two entities inherit from each other. -/
  asymm : ∀ a b, forest.isSubtypeOf a b true = true → forest.isSubtypeOf b a true = false
  /-- A branch lists no name twice. -/
  nodup_branch : ∀ root, (forest.branch root).Nodup
  /-- The branches of two roots have nothing in common. -/
  disjoint_branches : ∀ root ∈ forest.roots, ∀ other ∈ forest.roots, root ≠ other →
    (forest.branch (forest.nameOf root)).Disjoint (forest.branch (forest.nameOf other))
  /-- The branches of all roots together list every entity, -/
  branches_cover : (forest.roots.flatMap fun root => forest.branch (forest.nameOf root)).Perm
    (forest.entities.map (·.2.name))
  /-- and each of them once. -/
  nodup_branches : (forest.roots.flatMap fun root => forest.branch (forest.nameOf root)).Nodup

theorem WellFormed.bothWays (h : forest.WellFormed) : forest.BothWays where
  subtype_eq_supertype := h.isSubtypeOf_eq_isSupertypeOf
  subtype_iff_mem_branch := by
    intro a b e ha hb
    obtain ⟨key, hkey, he⟩ := find?_eq_some_iff.mp ha
    obtain ⟨above, habove⟩ := Option.isSome_iff_exists.mp hb
    rw [h.isSubtypeOf_iff, h.name_mem_branch_iff habove he, hkey, habove]
    simp
  irrefl := by
    intro a
    rw [Bool.eq_false_iff, Ne, h.isSubtypeOf_iff]
    rintro ⟨key, above, hkey, habove, hbelow⟩
    obtain rfl := Option.some.inj (hkey.symm.trans habove)
    exact h.not_strictlyBelow_self key hbelow
  trans := by
    intro a b c hab hbc
    rw [h.isSubtypeOf_iff] at hab hbc ⊢
    obtain ⟨key, middle, hkey, hmiddle, hbelow⟩ := hab
    obtain ⟨middle', above, hmiddle', habove, hbelow'⟩ := hbc
    obtain rfl := Option.some.inj (hmiddle.symm.trans hmiddle')
    exact ⟨key, above, hkey, habove, TransGen.trans hbelow hbelow'⟩
  asymm := by
    intro a b hab
    rw [Bool.eq_false_iff, Ne, h.isSubtypeOf_iff]
    rw [h.isSubtypeOf_iff] at hab
    obtain ⟨key, above, hkey, habove, hbelow⟩ := hab
    rintro ⟨above', key', habove', hkey', hbelow'⟩
    obtain rfl := Option.some.inj (hkey.symm.trans hkey')
    obtain rfl := Option.some.inj (habove.symm.trans habove')
    exact h.not_strictlyBelow_self key (TransGen.trans hbelow hbelow')
  nodup_branch := h.nodup_branch
  disjoint_branches := by
    intro root hroot other hother hne name hname hname'
    have hkey := h.key?_nameOf (roots_subset_keys hroot)
    have hkey' := h.key?_nameOf (roots_subset_keys hother)
    obtain ⟨key, e, he, rfl⟩ := h.exists_entity_of_mem_branch hname
    rw [h.name_mem_branch_iff hkey he] at hname
    rw [h.name_mem_branch_iff hkey' he] at hname'
    -- of two roots above one entity, one would be below the other
    rcases below_total hname hname' with hbelow | hbelow
    · exact hne (eq_of_below_of_mem_roots hroot hbelow)
    · exact hne (eq_of_below_of_mem_roots hother hbelow).symm
  branches_cover := h.perm_flatMap_branch_roots
  nodup_branches := h.nodup_flatMap_branch roots_subset_keys h.nodup_roots
    fun _ hroot _ _ => eq_of_below_of_mem_roots hroot

/-- **The questions upward and the questions downward agree** in every forest that declarations
make, whatever their arguments are. -/
theorem bothWays_addRecords (version : String) (enums : List (String × List String))
    (records : List EntityRecord) :
    (Forest.addRecords { version, predefinedTypeEnums := enums } records).value.BothWays :=
  ((wellFormed_empty version enums).addRecords records).bothWays

end Forest

end PsetCompiler
