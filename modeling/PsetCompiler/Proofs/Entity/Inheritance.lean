import PsetCompiler.Proofs.Entity.Declared
import PsetCompiler.Proofs.Text.Order
import Mathlib.Logic.Relation

/-!
# Inheritance, upward and downward

One question about inheritance follows parents, the other walks down through children.  Both are
compared here with one relation, the closure of the step from a child to its parent: the way up from
a key passes exactly the keys that it is strictly below, and a walk down from a key passes exactly
the keys that are below it, each of them once.

That a walk down passes nothing twice rests on the ways up.  A key that two walks have in common is
below the starts of both, and since every key has one way up, one of the starts is below the other.
Siblings are not below each other, and neither are roots.

## Main definitions

* `LeadsTo` — the closure of the step that a walk makes.
* `Forest.HasParent`, `Forest.Below` — the step to the parent, and its closure.

## Main results

* `Walks.mem_iff`, `Walks.nodup` — a walk down passes what can be reached, and nothing twice.
* `Forest.WellFormed.mem_ancestors_iff`, `Forest.WellFormed.mem_descendants_iff` — **the two lists
  of relatives, by the one relation.**
-/

namespace PsetCompiler

open Relation (ReflTransGen TransGen)

/-! ### What walks down pass -/

/-- One key leads to another along `next`. -/
abbrev LeadsTo (next : String → List String) : String → String → Prop :=
  ReflTransGen fun key child => child ∈ next key

mutual

/-- A walk down passes what its start leads to. -/
theorem Walks.mem_iff {next : String → List String} :
    ∀ {depth : Nat} {key : String} {walk : List (Nat × String)}, Walks next depth key walk →
      ∀ {x : String}, x ∈ walk.map (·.2) ↔ LeadsTo next key x
  | _, key, _, .node below, x => by
    have hstep : LeadsTo next key x ↔ key = x ∨ ∃ child ∈ next key, LeadsTo next child x :=
      ReflTransGen.cases_head_iff
    rw [List.map_cons, List.mem_cons, below.mem_iff, hstep, eq_comm]

/-- Walks down pass what one of their starts leads to. -/
theorem WalksAll.mem_iff {next : String → List String} :
    ∀ {depth : Nat} {keys : List String} {walk : List (Nat × String)},
      WalksAll next depth keys walk →
      ∀ {x : String}, x ∈ walk.map (·.2) ↔ ∃ key ∈ keys, LeadsTo next key x
  | _, _, _, .nil, x => by simp
  | _, _, _, .cons first others, x => by
    rw [List.map_append, List.mem_append, first.mem_iff, others.mem_iff, List.exists_mem_cons_iff]

end

/-- Nothing can be reached from both of two keys. -/
def LeadApart (next : String → List String) (key other : String) : Prop :=
  ∀ x, LeadsTo next key x → ¬ LeadsTo next other x

mutual

/-- A walk down passes nothing twice, if nothing leads back and siblings lead apart. -/
theorem Walks.nodup {next : String → List String}
    (hback : ∀ key, ∀ child ∈ next key, ¬ LeadsTo next child key)
    (hapart : ∀ key, (next key).Pairwise (LeadApart next)) :
    ∀ {depth : Nat} {key : String} {walk : List (Nat × String)}, Walks next depth key walk →
      (walk.map (·.2)).Nodup
  | _, key, _, .node below => by
    rw [List.map_cons, List.nodup_cons, below.mem_iff]
    refine ⟨?_, WalksAll.nodup hback hapart below (hapart key)⟩
    rintro ⟨child, hchild, hlead⟩
    exact hback key child hchild hlead

/-- Nor do walks down whose starts lead apart. -/
theorem WalksAll.nodup {next : String → List String}
    (hback : ∀ key, ∀ child ∈ next key, ¬ LeadsTo next child key)
    (hapart : ∀ key, (next key).Pairwise (LeadApart next)) :
    ∀ {depth : Nat} {keys : List String} {walk : List (Nat × String)},
      WalksAll next depth keys walk → keys.Pairwise (LeadApart next) → (walk.map (·.2)).Nodup
  | _, _, _, .nil, _ => .nil
  | _, _, _, .cons first others, hkeys => by
    obtain ⟨hkey, hkeys⟩ := List.pairwise_cons.mp hkeys
    rw [List.map_append, List.nodup_append']
    refine ⟨Walks.nodup hback hapart first, WalksAll.nodup hback hapart others hkeys, ?_⟩
    intro x hfirst hothers
    obtain ⟨other, hmem, hlead⟩ := others.mem_iff.mp hothers
    exact hkey other hmem x (first.mem_iff.mp hfirst) hlead

end

namespace Forest

variable {forest : Forest}

/-! ### The step to the parent -/

/-- The second key is that of the parent of the first. -/
def HasParent (forest : Forest) (child parent : String) : Prop :=
  forest.parent? child = some parent

/-- The first key is the second one, or its entity inherits from that of the second. -/
abbrev Below (forest : Forest) : String → String → Prop :=
  ReflTransGen forest.HasParent

/-- The entity of the first key inherits from that of the second. -/
abbrev StrictlyBelow (forest : Forest) : String → String → Prop :=
  TransGen forest.HasParent

theorem below_iff {key above : String} :
    forest.Below key above ↔ key = above ∨ forest.StrictlyBelow key above := by
  rw [eq_comm]
  exact Relation.reflTransGen_iff_eq_or_transGen

/-- Of two keys above one key, one is below the other. -/
theorem below_total {key above other : String} (h : forest.Below key above)
    (h' : forest.Below key other) : forest.Below above other ∨ forest.Below other above := by
  refine ReflTransGen.total_of_right_unique ?_ h h'
  intro child parent parent' hparent hparent'
  exact Option.some.inj (hparent.symm.trans hparent')

/-- Only a root itself is above the root. -/
theorem eq_of_below_of_parent?_eq_none {key above : String} (hroot : forest.parent? key = none)
    (h : forest.Below key above) : key = above := by
  rcases ReflTransGen.cases_head h with heq | ⟨parent, hparent, -⟩
  · exact heq
  · rw [HasParent, hroot] at hparent
    cases hparent

/-- A way up passes the keys strictly above its start. -/
theorem Climbs.mem_iff {key : String} {above : List String} (h : forest.Climbs key above)
    {x : String} : x ∈ above ↔ forest.StrictlyBelow key x := by
  induction h with
  | @root key hroot =>
    refine ⟨fun hmem => absurd hmem List.not_mem_nil, fun hbelow => ?_⟩
    obtain ⟨parent, hparent, -⟩ := TransGen.head'_iff.mp hbelow
    rw [HasParent, hroot] at hparent
    cases hparent
  | @up key parent above hparent _ ih =>
    have hstep : forest.StrictlyBelow key x ↔
        ∃ other, forest.HasParent key other ∧ forest.Below other x := TransGen.head'_iff
    rw [List.mem_cons, ih, hstep]
    constructor
    · rintro (rfl | hbelow)
      · exact ⟨x, hparent, .refl⟩
      · exact ⟨parent, hparent, hbelow.to_reflTransGen⟩
    · rintro ⟨other, hother, hbelow⟩
      obtain rfl : parent = other := Option.some.inj (hparent.symm.trans hother)
      exact (below_iff.mp hbelow).imp_left Eq.symm

namespace WellFormed

theorem mem_ancestors_iff (h : forest.WellFormed) {key above : String} :
    above ∈ forest.ancestors key ↔ forest.StrictlyBelow key above :=
  (h.climbs_ancestors key).mem_iff

theorem not_strictlyBelow_self (h : forest.WellFormed) (key : String) :
    ¬ forest.StrictlyBelow key key :=
  mt h.mem_ancestors_iff.mpr (h.climbs_ancestors key).notMem_self

/-- Who is above an entity of the forest is in the forest. -/
theorem mem_keys_of_below (h : forest.WellFormed) {key above : String}
    (hbelow : forest.Below key above) (hkey : key ∈ forest.entities.map (·.1)) :
    above ∈ forest.entities.map (·.1) := by
  induction hbelow with
  | refl => exact hkey
  | tail _ hparent _ => exact (h.links_stored hparent).2

theorem ancestors_subset_keys (h : forest.WellFormed) {key : String}
    (hkey : key ∈ forest.entities.map (·.1)) :
    forest.ancestors key ⊆ forest.entities.map (·.1) :=
  fun _ habove => h.mem_keys_of_below (h.mem_ancestors_iff.mp habove).to_reflTransGen hkey

/-- Who is below an entity of the forest is in the forest. -/
theorem mem_keys_of_above (h : forest.WellFormed) {key above : String}
    (hbelow : forest.Below key above) (habove : above ∈ forest.entities.map (·.1)) :
    key ∈ forest.entities.map (·.1) := by
  rcases ReflTransGen.cases_head hbelow with rfl | ⟨parent, hparent, -⟩
  · exact habove
  · exact (h.links_stored hparent).1

/-! ### Walks down along the children -/

section

variable (h : forest.WellFormed) {next : String → List String}
  (hnext : ∀ parent child, child ∈ next parent ↔ forest.parent? child = some parent)
include hnext

omit h in
/-- An arrangement of the children leads to the keys below. -/
theorem leadsTo_iff {key x : String} : LeadsTo next key x ↔ forest.Below x key := by
  have hstep : (fun key child => child ∈ next key) = Function.swap forest.HasParent := by
    funext parent child
    exact propext (hnext parent child)
  rw [LeadsTo, hstep, Relation.reflTransGen_swap]

include h

theorem not_leadsTo_of_mem {key child : String} (hchild : child ∈ next key) :
    ¬ LeadsTo next child key := by
  rw [leadsTo_iff hnext]
  intro hbelow
  exact h.not_strictlyBelow_self key
    (.tail' hbelow ((hnext key child).mp hchild))

omit h in
/-- Keys of which no two are below each other lead apart. -/
theorem pairwise_leadApart {keys : List String} (hnodup : keys.Nodup)
    (hapart : ∀ key ∈ keys, ∀ other ∈ keys, forest.Below key other → key = other) :
    keys.Pairwise (LeadApart next) := by
  refine hnodup.imp_of_mem ?_
  intro key other hkey hother hne x hlead hlead'
  rw [leadsTo_iff hnext] at hlead hlead'
  rcases below_total hlead hlead' with hbelow | hbelow
  · exact hne (hapart key hkey other hother hbelow)
  · exact hne (hapart other hother key hkey hbelow).symm

/-- Siblings lead apart. -/
theorem pairwise_leadApart_next (hnodup : ∀ key, (next key).Nodup) (key : String) :
    (next key).Pairwise (LeadApart next) := by
  refine pairwise_leadApart hnext (hnodup key) ?_
  intro child hchild sibling hsibling hbelow
  have hparent := (hnext key child).mp hchild
  have hparent' := (hnext key sibling).mp hsibling
  -- the way up from a child goes on with the parent, which is above the sibling
  rcases ReflTransGen.cases_head hbelow with heq | ⟨parent, hstep, hrest⟩
  · exact heq
  · obtain rfl : key = parent := Option.some.inj (hparent.symm.trans hstep)
    exact absurd (TransGen.tail' hrest hparent') (h.not_strictlyBelow_self key)

/-- Walks down from keys of which no two are below each other pass nothing twice. -/
theorem nodup_walksAll (hnodup : ∀ key, (next key).Nodup) {depth : Nat} {keys : List String}
    {walk : List (Nat × String)} (hwalk : WalksAll next depth keys walk) (hkeys : keys.Nodup)
    (hapart : ∀ key ∈ keys, ∀ other ∈ keys, forest.Below key other → key = other) :
    (walk.map (·.2)).Nodup :=
  hwalk.nodup (fun _ _ hchild => h.not_leadsTo_of_mem hnext hchild)
    (h.pairwise_leadApart_next hnext hnodup) (pairwise_leadApart hnext hkeys hapart)

end

variable (h : forest.WellFormed)
include h

/-- The descendants behind their start are those of one whole walk down. -/
theorem walksAll_descendants (keys : List String) :
    ∃ walk, WalksAll forest.children 0 keys walk ∧
      (keys.flatMap fun key => key :: forest.descendants key) = walk.map (·.2) := by
  refine ⟨keys.flatMap (boundedWalk forest.children forest.links.length 0),
    .flatMap fun key _ => h.walks_boundedWalk (fun _ _ => h.mem_children_iff.mp) (by omega) 0, ?_⟩
  rw [List.map_flatMap]
  exact List.flatMap_congr fun key _ => cons_descend_eq forest forest.links.length 0 key

/-- Keys of which no two are below each other have no descendants in common. -/
theorem nodup_flatMap_descendants {keys : List String} (hkeys : keys.Nodup)
    (hapart : ∀ key ∈ keys, ∀ other ∈ keys, forest.Below key other → key = other) :
    (keys.flatMap fun key => key :: forest.descendants key).Nodup := by
  obtain ⟨walk, hwalk, heq⟩ := h.walksAll_descendants keys
  rw [heq]
  exact h.nodup_walksAll (fun _ _ => h.mem_children_iff) h.nodup_children hwalk hkeys hapart

theorem nodup_cons_descendants (key : String) : (key :: forest.descendants key).Nodup := by
  have hnodup := h.nodup_flatMap_descendants (List.nodup_singleton key) (by simp)
  rwa [List.flatMap_singleton] at hnodup

theorem mem_cons_descendants_iff {key x : String} :
    x ∈ key :: forest.descendants key ↔ forest.Below x key := by
  obtain ⟨walk, hwalk, heq⟩ := h.walks_descendants key
  rw [heq, hwalk.mem_iff, leadsTo_iff fun _ _ => h.mem_children_iff]

theorem mem_descendants_iff {key x : String} :
    x ∈ forest.descendants key ↔ forest.StrictlyBelow x key := by
  have hself := (List.nodup_cons.mp (h.nodup_cons_descendants key)).1
  have hmem : x ∈ key :: forest.descendants key ↔ forest.Below x key := h.mem_cons_descendants_iff
  rw [List.mem_cons, below_iff] at hmem
  constructor
  · intro hx
    rcases hmem.mp (.inr hx) with rfl | hbelow
    · exact absurd hx hself
    · exact hbelow
  · intro hbelow
    rcases hmem.mpr (.inr hbelow) with rfl | hx
    · exact absurd hbelow (h.not_strictlyBelow_self _)
    · exact hx

end WellFormed

end Forest

end PsetCompiler
