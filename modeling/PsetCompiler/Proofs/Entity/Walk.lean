import PsetCompiler.Entity.Query
import PsetCompiler.Proofs.Entries
import Mathlib.Data.List.Perm.Subperm

/-!
# Walks along the links of a forest

The walks of a forest are bounded by the number of its links, so they end by definition; what is to
be shown is that the bound never cuts one off.  The relations here describe the walks without a
bound: they hold only of a walk that ends by itself.

A forest is well formed when its links lead from stored entities to stored entities, no entity has
two parents, and every way up ends.  In a well-formed forest a way up passes no entity twice, so it
is shorter than the forest is large, and the walks down can be no deeper than the ways up are long.

## Main definitions

* `Forest.Climbs` — a way up without a bound, and what it passes.
* `Walks`, `WalksAll` — a walk down without a bound, depth first.
* `Forest.WellFormed` — the invariant of forests.

## Main results

* `Forest.WellFormed.climbs_ancestors` — the bounded way up is the whole way.
* `Forest.WellFormed.length_ancestors_lt_size` — it is shorter than the forest is large.
* `Forest.WellFormed.walks_boundedWalk` — the bounded walk down is the whole walk.
-/

namespace PsetCompiler

/-! ### Walks without a bound -/

/-- Following the parents from a key, one by one and without a bound, comes to an end and passes
the keys `above`. -/
inductive Forest.Climbs (forest : Forest) : String → List String → Prop
  /-- There is no parent to go to. -/
  | root {key : String} (h : forest.parent? key = none) : Climbs forest key []
  /-- One step to the parent, then the way from there. -/
  | up {key parent : String} {above : List String} (h : forest.parent? key = some parent)
      (rest : Climbs forest parent above) : Climbs forest key (parent :: above)

mutual

/-- Walking down from a key along `next`, depth first and without a bound, comes to an end and
passes the given keys, each with its depth. -/
inductive Walks (next : String → List String) : Nat → String → List (Nat × String) → Prop
  /-- The key itself, then everything below it. -/
  | node {depth : Nat} {key : String} {below : List (Nat × String)}
      (h : WalksAll next (depth + 1) (next key) below) :
      Walks next depth key ((depth, key) :: below)

/-- The walks down from some keys of one depth, one after the other. -/
inductive WalksAll (next : String → List String) : Nat → List String → List (Nat × String) → Prop
  | nil {depth : Nat} : WalksAll next depth [] []
  | cons {depth : Nat} {key : String} {keys : List String} {first others : List (Nat × String)}
      (h : Walks next depth key first) (rest : WalksAll next depth keys others) :
      WalksAll next depth (key :: keys) (first ++ others)

end

/-- Walks from several keys, each given as a function of its key, are one walk from all of them. -/
theorem WalksAll.flatMap {next : String → List String} {depth : Nat} {keys : List String}
    {walk : String → List (Nat × String)} (h : ∀ key ∈ keys, Walks next depth key (walk key)) :
    WalksAll next depth keys (keys.flatMap walk) := by
  induction keys with
  | nil => exact .nil
  | cons key keys ih =>
    rw [List.flatMap_cons]
    exact .cons (h key (by simp)) (ih fun k hk => h k (by simp [hk]))

namespace Forest

variable {forest : Forest}

namespace Climbs

theorem congr {other : Forest} (hlinks : other.links = forest.links) {key : String}
    {above : List String} (h : forest.Climbs key above) : other.Climbs key above := by
  induction h with
  | root h => exact .root (by rwa [parent?, hlinks])
  | up h _ ih => exact .up (by rwa [parent?, hlinks]) ih

/-- There is one way up. -/
theorem unique {key : String} {above others : List String} (h : forest.Climbs key above)
    (h' : forest.Climbs key others) : above = others := by
  induction h generalizing others with
  | root h =>
    cases h' with
    | root => rfl
    | up h' => rw [h] at h'; cases h'
  | up h _ ih =>
    cases h' with
    | root h' => rw [h] at h'; cases h'
    | up h' rest' =>
      rw [h] at h'
      cases h'
      rw [ih rest']

/-- From a key on the way, the rest of the way is shorter. -/
theorem exists_shorter {key : String} {above : List String} (h : forest.Climbs key above)
    {x : String} (hx : x ∈ above) : ∃ rest, forest.Climbs x rest ∧ rest.length < above.length := by
  induction h with
  | root => cases hx
  | @up key parent above _ rest ih =>
    rcases List.mem_cons.mp hx with rfl | hmem
    · exact ⟨above, rest, by simp⟩
    · obtain ⟨rest', hclimbs, hlt⟩ := ih hmem
      exact ⟨rest', hclimbs, by rw [List.length_cons]; omega⟩

/-- A way up does not come back to where it started. -/
theorem notMem_self {key : String} {above : List String} (h : forest.Climbs key above) :
    key ∉ above := by
  intro hmem
  obtain ⟨rest, hrest, hlt⟩ := h.exists_shorter hmem
  rw [h.unique hrest] at hlt
  exact absurd hlt (Nat.lt_irrefl _)

/-- A way up passes nothing twice. -/
theorem nodup {key : String} {above : List String} (h : forest.Climbs key above) :
    (key :: above).Nodup := by
  induction h with
  | root => exact List.pairwise_singleton _ _
  | up h rest ih => exact List.nodup_cons.mpr ⟨(Climbs.up h rest).notMem_self, ih⟩

/-- A bound that is no less than the length of the way up does not cut it off. -/
theorem climb_eq {key : String} {above : List String} (h : forest.Climbs key above) {bound : Nat}
    (hbound : above.length ≤ bound) : forest.climb bound key = above := by
  induction h generalizing bound with
  | root h =>
    cases bound with
    | zero => rfl
    | succ bound => rw [climb, h]
  | up h _ ih =>
    cases bound with
    | zero => simp at hbound
    | succ bound =>
      rw [climb, h]
      simp only [ih (Nat.le_of_succ_le_succ hbound)]

/-- Every step of a way up follows a link. -/
theorem mem_links {key : String} {above : List String} (h : forest.Climbs key above) :
    (∀ x ∈ (key :: above).dropLast, x ∈ forest.links.map (·.1)) ∧
      ∀ x ∈ above, ∃ child, (child, x) ∈ forest.links := by
  induction h with
  | root => simp
  | @up key parent above h _ ih =>
    have hlink : (key, parent) ∈ forest.links := mem_of_lookup h
    refine ⟨?_, ?_⟩
    · intro x hx
      rw [List.dropLast_cons_of_ne_nil (by simp)] at hx
      rcases List.mem_cons.mp hx with rfl | hx
      · exact List.mem_map.mpr ⟨_, hlink, rfl⟩
      · exact ih.1 x hx
    · intro x hx
      rcases List.mem_cons.mp hx with rfl | hx
      · exact ⟨key, hlink⟩
      · exact ih.2 x hx

theorem length_le_links {key : String} {above : List String} (h : forest.Climbs key above) :
    above.length ≤ forest.links.length := by
  -- the keys on the way, but for the last one, are children of links
  have hnodup : ((key :: above).dropLast).Nodup := h.nodup.sublist (List.dropLast_sublist _)
  have hle := (hnodup.subperm h.mem_links.1).length_le
  simpa using hle

end Climbs

/-! ### The invariant -/

/-- The invariant of forests. -/
structure WellFormed (forest : Forest) : Prop where
  /-- No key is there twice. -/
  nodup_keys : (forest.entities.map (·.1)).Nodup
  /-- An entity is stored under the case folding of its name, -/
  key_eq : ∀ entry ∈ forest.entities, entry.1 = Text.foldCase entry.2.name
  /-- and its name is that of an entity. -/
  isEntityName : ∀ entry ∈ forest.entities, isEntityName entry.2.name = true
  /-- No entity has two parents. -/
  nodup_links : (forest.links.map (·.1)).Nodup
  /-- Links lead from stored entities -/
  child_mem : ∀ link ∈ forest.links, link.1 ∈ forest.entities.map (·.1)
  /-- to stored entities. -/
  parent_mem : ∀ link ∈ forest.links, link.2 ∈ forest.entities.map (·.1)
  /-- Every way up ends. -/
  grounded : ∀ key, ∃ above, forest.Climbs key above

namespace WellFormed

theorem climbs_ancestors (h : forest.WellFormed) (key : String) :
    forest.Climbs key (forest.ancestors key) := by
  obtain ⟨above, habove⟩ := h.grounded key
  have heq : forest.ancestors key = above := habove.climb_eq habove.length_le_links
  rwa [heq]

theorem parent?_eq_some_iff (h : forest.WellFormed) {child parent : String} :
    forest.parent? child = some parent ↔ (child, parent) ∈ forest.links :=
  lookup_eq_some_iff_mem h.nodup_links

theorem ancestors_eq_cons (h : forest.WellFormed) {child parent : String}
    (hparent : forest.parent? child = some parent) :
    forest.ancestors child = parent :: forest.ancestors parent :=
  (h.climbs_ancestors child).unique (.up hparent (h.climbs_ancestors parent))

/-- The way up from a stored entity is shorter than the forest is large. -/
theorem length_ancestors_lt_size (h : forest.WellFormed) {key : String}
    (hkey : key ∈ forest.entities.map (·.1)) : (forest.ancestors key).length < forest.size := by
  have hclimbs := h.climbs_ancestors key
  have hsubset : key :: forest.ancestors key ⊆ forest.entities.map (·.1) := by
    intro x hx
    rcases List.mem_cons.mp hx with rfl | hx
    · exact hkey
    · obtain ⟨child, hlink⟩ := hclimbs.mem_links.2 x hx
      exact h.parent_mem _ hlink
  have hle := (hclimbs.nodup.subperm hsubset).length_le
  rwa [List.length_map, List.length_cons] at hle

theorem mem_children_iff (h : forest.WellFormed) {child parent : String} :
    child ∈ forest.children parent ↔ forest.parent? child = some parent := by
  rw [h.parent?_eq_some_iff, children, List.mem_map]
  constructor
  · rintro ⟨⟨c, p⟩, hmem, rfl⟩
    obtain ⟨hmem, hp⟩ := List.mem_filter.mp hmem
    rwa [← eq_of_beq hp]
  · intro hmem
    exact ⟨(child, parent), List.mem_filter.mpr ⟨hmem, beq_self_eq_true _⟩, rfl⟩

theorem nodup_children (h : forest.WellFormed) (parent : String) :
    (forest.children parent).Nodup :=
  h.nodup_links.sublist (List.filter_sublist.map _)

/-- A key is among the children of its parent once, and among those of no other key. -/
theorem count_children (h : forest.WellFormed) (child parent : String) :
    (forest.children parent).count child = if forest.parent? child = some parent then 1 else 0 := by
  rw [(h.nodup_children parent).count]
  simp only [h.mem_children_iff]

end WellFormed

/-! ### The walks down -/

/-- A walk down along `next` through at most `bound` levels below the first. -/
def boundedWalk (next : String → List String) : (bound depth : Nat) → String → List (Nat × String)
  | 0, depth, key => [(depth, key)]
  | bound + 1, depth, key =>
    (depth, key) :: (next key).flatMap (boundedWalk next bound (depth + 1))

/-- The walk down to the descendants is a walk along the children. -/
theorem cons_descend_eq (forest : Forest) (bound depth : Nat) (key : String) :
    key :: forest.descend bound key = (boundedWalk forest.children bound depth key).map (·.2) := by
  induction bound generalizing depth key with
  | zero => rfl
  | succ bound ih =>
    rw [descend, boundedWalk, List.map_cons, List.map_flatMap]
    simp only [ih (depth + 1)]

/-- The indented list is a walk along the children in order of their names. -/
theorem outlineFrom_eq (forest : Forest) (bound depth : Nat) (key : String) :
    forest.outlineFrom (bound + 1) depth key =
      (boundedWalk forest.sortedChildren bound depth key).filterMap fun entry =>
        (forest.entity? entry.2).map (entry.1, ·) := by
  induction bound generalizing depth key with
  | zero =>
    rw [outlineFrom, boundedWalk]
    cases h : forest.entity? key <;> simp [outlineFrom, h]
  | succ bound ih =>
    rw [outlineFrom, boundedWalk, List.filterMap_cons]
    have hrest : (forest.sortedChildren key).flatMap (forest.outlineFrom (bound + 1) (depth + 1)) =
        ((forest.sortedChildren key).flatMap
          (boundedWalk forest.sortedChildren bound (depth + 1))).filterMap fun entry =>
            (forest.entity? entry.2).map (entry.1, ·) := by
      rw [List.filterMap_flatMap]
      exact List.flatMap_congr fun child _ => ih (depth + 1) child
    rw [hrest]
    cases forest.entity? key <;> simp

namespace WellFormed

/-- A walk down along an arrangement of the children is whole, when the levels that are left and
the levels above make up for the number of links: no way up is longer than that. -/
theorem walks_boundedWalk (h : forest.WellFormed) {next : String → List String}
    (hnext : ∀ key, ∀ child ∈ next key, forest.parent? child = some key) {bound : Nat}
    {key : String} (hbound : forest.links.length ≤ bound + (forest.ancestors key).length)
    (depth : Nat) : Walks next depth key (boundedWalk next bound depth key) := by
  induction bound generalizing key depth with
  | zero =>
    -- a child would have a way up that is longer than there are links
    have hnil : next key = [] := by
      rw [List.eq_nil_iff_forall_not_mem]
      intro child hchild
      have hle := (h.climbs_ancestors child).length_le_links
      rw [h.ancestors_eq_cons (hnext key child hchild), List.length_cons] at hle
      omega
    refine .node ?_
    rw [hnil]
    exact .nil
  | succ bound ih =>
    refine .node (.flatMap fun child hchild => ih ?_ (depth + 1))
    rw [h.ancestors_eq_cons (hnext key child hchild), List.length_cons]
    omega

theorem mem_sortedChildren_iff (h : forest.WellFormed) {child parent : String} :
    child ∈ forest.sortedChildren parent ↔ forest.parent? child = some parent := by
  rw [sortedChildren, Text.sortBy, List.mem_mergeSort, h.mem_children_iff]

/-- The descendants are those of a whole walk down. -/
theorem walks_descendants (h : forest.WellFormed) (key : String) :
    ∃ walk, Walks forest.children 0 key walk ∧
      key :: forest.descendants key = walk.map (·.2) :=
  ⟨boundedWalk forest.children forest.links.length 0 key,
    h.walks_boundedWalk (fun _ _ => h.mem_children_iff.mp) (by omega) 0,
    cons_descend_eq forest forest.links.length 0 key⟩

/-- The indented list below some keys is that of whole walks down. -/
theorem walksAll_outlineFrom (h : forest.WellFormed) (depth : Nat) (keys : List String) :
    ∃ walk, WalksAll forest.sortedChildren depth keys walk ∧
      keys.flatMap (forest.outlineFrom (forest.links.length + 1) depth) =
        walk.filterMap fun entry => (forest.entity? entry.2).map (entry.1, ·) := by
  refine ⟨keys.flatMap (boundedWalk forest.sortedChildren forest.links.length depth),
    .flatMap fun key _ =>
      h.walks_boundedWalk (fun _ _ => h.mem_sortedChildren_iff.mp) (by omega) depth, ?_⟩
  rw [List.filterMap_flatMap]
  exact List.flatMap_congr fun key _ => outlineFrom_eq forest forest.links.length depth key

end WellFormed

end Forest

end PsetCompiler
