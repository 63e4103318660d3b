import PsetCompiler.Proofs.Entity.Preorder
import PsetCompiler.Proofs.Entity.Query

/-!
# The indented list

The indented list of a forest shows of every entity its name, its flag and how deep it stands, and
the depths stand for the links: what is below an entity follows its line at greater depth, and its
parent has the nearest line before it that is one step higher.  So the parents can be read off the
list, and nothing that the list does not show has a part in it.  In particular the order in which the
entities came in has none, since siblings are listed by their names, and these differ.

## Main definitions

* `Listed`, `Forest.listing` — what a line shows, and the indented list before it is written.
* `Listed.above?`, `parentIn` — what depths tell of parents.
* `Forest.IsListing` — what a list has in common with a forest.
* `Forest.ShownAlike` — what the indented list shows of two forests is the same.

## Main results

* `Forest.WellFormed.exists_walk` — the indented list is that of a walk.
* `Forest.WellFormed.isListing` — the list is faithful.
* `Forest.ShownAlike.listing_eq` — entities and parents that are shown alike are listed alike.
* `Forest.isListing_addRecords` — **the indented list is a faithful preorder.**
-/

namespace PsetCompiler

open Relation (ReflTransGen TransGen)

/-! ### Lines -/

/-- What a line of the indented list shows of an entity. -/
structure Listed where
  /-- How far the line is moved in. -/
  depth : Nat
  name : String
  isAbstract : Bool
deriving DecidableEq, Repr

namespace Listed

/-- The line as it is written. -/
def text (l : Listed) : String :=
  Forest.outlineLine (l.depth, { name := l.name, isAbstract := l.isAbstract })

end Listed

namespace Forest

variable {forest other : Forest}

/-! ### What is shown -/

/-- The indented list of the forest, or of the branch of one entity, before it is written. -/
def listing (forest : Forest) (root : Option String := none) : List Listed :=
  (forest.outline root).map fun entry => ⟨entry.1, entry.2.name, entry.2.isAbstract⟩

/-- The indented list is written line by line. -/
theorem dump_eq (forest : Forest) (root : Option String) :
    forest.dump root = String.join ((forest.listing root).map fun l => l.text ++ "\n") := by
  rw [dump, listing, List.map_map]
  rfl

/-- What is shown of the entity under a key. -/
def shown? (forest : Forest) (key : String) : Option (String × Bool) :=
  (forest.entity? key).map fun e => (e.name, e.isAbstract)

/-- The line of a key at a depth. -/
def listed (forest : Forest) (line : Nat × String) : Listed :=
  ⟨line.1, forest.nameOf line.2, ((forest.shown? line.2).map (·.2)).getD false⟩

theorem listed_of_entity? {key : String} {e : Entity} (he : forest.entity? key = some e)
    (depth : Nat) : forest.listed (depth, key) = ⟨depth, e.name, e.isAbstract⟩ := by
  rw [listed, nameOf_of_entity? he, shown?, he]
  rfl

/-- Walks that pass stored keys are shown line by line. -/
theorem map_filterMap_eq_map_listed {walk : List (Nat × String)}
    (h : ∀ line ∈ walk, line.2 ∈ forest.entities.map (·.1)) :
    ((walk.filterMap fun line => (forest.entity? line.2).map (line.1, ·)).map fun entry =>
      (⟨entry.1, entry.2.name, entry.2.isAbstract⟩ : Listed)) = walk.map forest.listed := by
  induction walk with
  | nil => rfl
  | cons line walk ih =>
    rw [List.forall_mem_cons] at h
    obtain ⟨e, he⟩ := exists_entity? h.1
    rw [List.filterMap_cons, he, List.map_cons, ← ih h.2, listed_of_entity? he]
    rfl

theorem outlineStarts_subset_keys (root : Option String) :
    forest.outlineStarts root ⊆ forest.entities.map (·.1) := by
  cases root with
  | none => exact roots_subset_keys
  | some name =>
    intro key hkey
    exact (key?_eq_some_iff.mp (Option.mem_toList.mp hkey)).2.2

namespace WellFormed

variable (h : forest.WellFormed)
include h

/-! ### The order of children and roots -/

theorem nodup_sortedChildren (key : String) : (forest.sortedChildren key).Nodup :=
  ((Text.perm_sortBy _ _).nodup_iff).mpr (h.nodup_children key)

theorem pairwise_nameOf_sortedChildren (key : String) :
    (forest.sortedChildren key).Pairwise fun child other =>
      forest.nameOf child < forest.nameOf other := by
  refine Text.pairwise_lt_sortBy _ (h.nodup_map_nameOf (h.nodup_children key) ?_)
  intro child hchild
  exact (h.links_stored (h.mem_children_iff.mp hchild)).1

theorem pairwise_leadApart_sortedChildren (key : String) :
    (forest.sortedChildren key).Pairwise (LeadApart forest.sortedChildren) :=
  h.pairwise_leadApart_next (fun _ _ => h.mem_sortedChildren_iff) h.nodup_sortedChildren key

theorem pairwise_nameOf_roots :
    forest.roots.Pairwise fun root other => forest.nameOf root < forest.nameOf other := by
  have hnames : (forest.entities.map (·.2.name)).Nodup := by
    rw [← h.map_nameOf_keys]
    exact h.nodup_map_nameOf h.nodup_keys (List.Subset.refl _)
  have hsorted : forest.sorted.Pairwise fun a b => a.2.name < b.2.name :=
    Text.pairwise_lt_sortBy _ hnames
  rw [roots, List.pairwise_map]
  refine (hsorted.filter _).imp_of_mem fun {a b} ha hb hlt => ?_
  have hname {entry : String × Entity}
      (hentry : entry ∈ forest.sorted.filter fun entry => (forest.parent? entry.1).isNone) :
      forest.nameOf entry.1 = entry.2.name :=
    nameOf_of_entity? ((lookup_eq_some_iff_mem h.nodup_keys).mpr
      ((Text.mem_sortBy _).mp (List.mem_of_mem_filter hentry)))
  rwa [hname ha, hname hb]

/-- Walks down from stored keys pass stored keys. -/
theorem mem_keys_of_mem_walksAll {depth : Nat} {keys : List String} {walk : List (Nat × String)}
    (hwalk : WalksAll forest.sortedChildren depth keys walk)
    (hkeys : keys ⊆ forest.entities.map (·.1)) :
    ∀ line ∈ walk, line.2 ∈ forest.entities.map (·.1) := by
  intro line hline
  obtain ⟨key, hkey, hlead⟩ := hwalk.mem_iff.mp (List.mem_map_of_mem hline)
  rw [WellFormed.leadsTo_iff fun _ _ => h.mem_sortedChildren_iff] at hlead
  exact h.mem_keys_of_above hlead (hkeys hkey)

/-- The indented list is that of the walk along the children in order of their names. -/
theorem exists_walk (root : Option String) :
    ∃ walk, WalksAll forest.sortedChildren 0 (forest.outlineStarts root) walk ∧
      (∀ line ∈ walk, line.2 ∈ forest.entities.map (·.1)) ∧
      forest.listing root = walk.map forest.listed := by
  obtain ⟨walk, hwalk, heq⟩ := h.walksAll_outlineFrom 0 (forest.outlineStarts root)
  have hstored := h.mem_keys_of_mem_walksAll hwalk (outlineStarts_subset_keys root)
  refine ⟨walk, hwalk, hstored, ?_⟩
  rw [← map_filterMap_eq_map_listed hstored, ← heq, listing]
  cases root <;> rfl

end WellFormed

/-! ### Depths and names along a walk -/

mutual

/-- The depth of a line is the number of ancestors, if it is so for the first line. -/
theorem WellFormed.length_ancestors_walks (h : forest.WellFormed) :
    ∀ {depth : Nat} {key : String} {walk : List (Nat × String)},
      Walks forest.sortedChildren depth key walk → (forest.ancestors key).length = depth →
        ∀ line ∈ walk, (forest.ancestors line.2).length = line.1
  | _, _, _, .node hbelow, hdepth, line, hline => by
    rcases List.mem_cons.mp hline with rfl | hline
    · exact hdepth
    · refine h.length_ancestors_walksAll hbelow ?_ line hline
      intro child hchild
      rw [h.ancestors_eq_cons (h.mem_sortedChildren_iff.mp hchild), List.length_cons, hdepth]

theorem WellFormed.length_ancestors_walksAll (h : forest.WellFormed) :
    ∀ {depth : Nat} {keys : List String} {walk : List (Nat × String)},
      WalksAll forest.sortedChildren depth keys walk →
        (∀ key ∈ keys, (forest.ancestors key).length = depth) →
        ∀ line ∈ walk, (forest.ancestors line.2).length = line.1
  | _, _, _, .nil, _, _, hline => nomatch hline
  | _, _, _, .cons hfirst hothers, hdepth, line, hline => by
    rw [List.forall_mem_cons] at hdepth
    rcases List.mem_append.mp hline with hline | hline
    · exact h.length_ancestors_walks hfirst hdepth.1 line hline
    · exact h.length_ancestors_walksAll hothers hdepth.2 line hline

end

/-- If two keys are siblings, or both are roots, the name of the first one is smaller. -/
def SiblingsInOrder (forest : Forest) (key other : String) : Prop :=
  forest.parent? key = forest.parent? other → forest.nameOf key < forest.nameOf other

/-- What two keys lead to can only be siblings if it is these keys themselves. -/
theorem WellFormed.siblingsInOrder_of_leadApart (h : forest.WellFormed) {key other a b : String}
    (hapart : LeadApart forest.sortedChildren key other)
    (hlt : forest.nameOf key < forest.nameOf other) (ha : LeadsTo forest.sortedChildren key a)
    (hb : LeadsTo forest.sortedChildren other b) : forest.SiblingsInOrder a b := by
  have hlead {start x : String} :
      LeadsTo forest.sortedChildren start x ↔ forest.Below x start :=
    WellFormed.leadsTo_iff fun _ _ => h.mem_sortedChildren_iff
  intro hparent
  rw [hlead] at ha hb
  rcases ReflTransGen.cases_head ha with rfl | ⟨parent, hstep, hrest⟩
  · rcases ReflTransGen.cases_head hb with rfl | ⟨parent, hstep, hrest⟩
    · exact hlt
    · -- the first key would be a child of what the other one leads to
      have hbelow : forest.Below a other := .head (hparent.trans hstep) hrest
      exact absurd (hlead.mpr hbelow) (hapart a .refl)
  · have hbelow : forest.Below b key := .head (hparent.symm.trans hstep) hrest
    exact absurd (hlead.mpr hb) (hapart b (hlead.mpr hbelow))

mutual

/-- Siblings are passed in order of their names. -/
theorem WellFormed.pairwise_walks (h : forest.WellFormed) :
    ∀ {depth : Nat} {key : String} {walk : List (Nat × String)},
      Walks forest.sortedChildren depth key walk →
        (walk.map (·.2)).Pairwise forest.SiblingsInOrder
  | _, key, _, .node hbelow => by
    rw [List.map_cons, List.pairwise_cons]
    refine ⟨fun x hx hparent => ?_, h.pairwise_walksAll hbelow
      (h.pairwise_nameOf_sortedChildren key) (h.pairwise_leadApart_sortedChildren key)⟩
    -- nothing below a key has its parent
    obtain ⟨child, hchild, hlead⟩ := hbelow.mem_iff.mp hx
    rw [WellFormed.leadsTo_iff fun _ _ => h.mem_sortedChildren_iff] at hlead
    have hx : forest.StrictlyBelow x key :=
      TransGen.tail' hlead (h.mem_sortedChildren_iff.mp hchild)
    obtain ⟨parent, hstep, hrest⟩ := TransGen.head'_iff.mp hx
    have hkey : forest.HasParent key parent := hparent.trans hstep
    exact absurd (TransGen.head' hkey hrest) (h.not_strictlyBelow_self key)

theorem WellFormed.pairwise_walksAll (h : forest.WellFormed) :
    ∀ {depth : Nat} {keys : List String} {walk : List (Nat × String)},
      WalksAll forest.sortedChildren depth keys walk →
        keys.Pairwise (fun key other => forest.nameOf key < forest.nameOf other) →
        keys.Pairwise (LeadApart forest.sortedChildren) →
        (walk.map (·.2)).Pairwise forest.SiblingsInOrder
  | _, _, _, .nil, _, _ => .nil
  | _, _, _, .cons hfirst hothers, hlt, hapart => by
    rw [List.pairwise_cons] at hlt hapart
    rw [List.map_append, List.pairwise_append]
    refine ⟨h.pairwise_walks hfirst,
      h.pairwise_walksAll hothers hlt.2 hapart.2, fun a ha b hb => ?_⟩
    obtain ⟨other, hother, hlead⟩ := hothers.mem_iff.mp hb
    exact h.siblingsInOrder_of_leadApart (hapart.1 other hother) (hlt.1 other hother)
      (hfirst.mem_iff.mp ha) hlead

end

/-! ### The list is faithful -/

namespace WellFormed

variable (h : forest.WellFormed)
include h

section

variable {walk : List (Nat × String)}
  (hwalk : WalksAll forest.sortedChildren 0 forest.roots walk)
include hwalk

end

end WellFormed

/-! ### What the list does not depend on -/

/-- Under every key, two forests show the same, and they have the same parent. -/
structure ShownAlike (forest other : Forest) : Prop where
  shown?_eq : ∀ key, other.shown? key = forest.shown? key
  parent?_eq : ∀ key, other.parent? key = forest.parent? key

theorem nameOf_eq_shown? (forest : Forest) (key : String) :
    forest.nameOf key = ((forest.shown? key).map (·.1)).getD key := by
  rw [nameOf, shown?, Option.map_map]
  rfl

/-- Keys whose names are in order are told by which they are. -/
theorem eq_of_pairwise_nameOf {keys others : List String}
    (hkeys : keys.Pairwise fun key key' => forest.nameOf key < forest.nameOf key')
    (hothers : others.Pairwise fun key key' => forest.nameOf key < forest.nameOf key')
    (hmem : ∀ key, key ∈ keys ↔ key ∈ others) : keys = others := by
  have hnodup {l : List String}
      (hl : l.Pairwise fun key key' => forest.nameOf key < forest.nameOf key') : l.Nodup := by
    refine hl.imp fun {key key'} hlt => ?_
    rintro rfl
    exact String.lt_irrefl _ hlt
  have hperm : keys.Perm others :=
    (List.perm_ext_iff_of_nodup (hnodup hkeys) (hnodup hothers)).mpr hmem
  refine hperm.eq_of_pairwise (fun key key' _ _ hlt hgt => ?_) hkeys hothers
  exact absurd (String.lt_trans hlt hgt) (String.lt_irrefl _)

namespace ShownAlike

variable (h : forest.ShownAlike other)
include h

theorem nameOf_eq : other.nameOf = forest.nameOf := by
  funext key
  rw [nameOf_eq_shown?, h.shown?_eq, ← nameOf_eq_shown?]

theorem listed_eq : other.listed = forest.listed := by
  funext line
  rw [listed, listed, h.nameOf_eq, h.shown?_eq]

theorem isSome_entity?_eq (key : String) :
    (other.entity? key).isSome = (forest.entity? key).isSome := by
  have hshown := congrArg Option.isSome (h.shown?_eq key)
  rwa [shown?, shown?, Option.isSome_map, Option.isSome_map] at hshown

theorem mem_keys_iff {key : String} :
    key ∈ other.entities.map (·.1) ↔ key ∈ forest.entities.map (·.1) := by
  rw [← lookup_isSome_iff_mem_keys, ← lookup_isSome_iff_mem_keys]
  exact iff_of_eq (congrArg (· = true) (h.isSome_entity?_eq key))

theorem key?_eq (name : String) : other.key? name = forest.key? name := by
  rw [key?, key?, h.isSome_entity?_eq]

variable (hforest : forest.WellFormed) (hother : other.WellFormed)
include hforest hother

theorem roots_eq : other.roots = forest.roots := by
  have hpairs := hother.pairwise_nameOf_roots
  rw [h.nameOf_eq] at hpairs
  refine eq_of_pairwise_nameOf hpairs hforest.pairwise_nameOf_roots fun key => ?_
  rw [mem_roots_iff, mem_roots_iff, h.mem_keys_iff, h.parent?_eq]

theorem sortedChildren_eq : other.sortedChildren = forest.sortedChildren := by
  funext key
  have hpairs := hother.pairwise_nameOf_sortedChildren key
  rw [h.nameOf_eq] at hpairs
  refine eq_of_pairwise_nameOf hpairs (hforest.pairwise_nameOf_sortedChildren key) fun child => ?_
  rw [hother.mem_sortedChildren_iff, hforest.mem_sortedChildren_iff, h.parent?_eq]

/-- Entities and parents that are shown alike are listed alike. -/
theorem listing_eq (root : Option String) : other.listing root = forest.listing root := by
  obtain ⟨walk, hwalk, -, hlisting⟩ := hforest.exists_walk root
  obtain ⟨walk', hwalk', -, hlisting'⟩ := hother.exists_walk root
  have hstarts : other.outlineStarts root = forest.outlineStarts root := by
    cases root with
    | none => exact h.roots_eq hforest hother
    | some name => rw [outlineStarts, outlineStarts, h.key?_eq]
  rw [hstarts, h.sortedChildren_eq hforest hother] at hwalk'
  rw [hlisting, hlisting', hwalk'.unique hwalk, h.listed_eq]

theorem dump_eq (root : Option String) : other.dump root = forest.dump root := by
  rw [Forest.dump_eq, Forest.dump_eq, h.listing_eq hforest hother]

end ShownAlike

end Forest

end PsetCompiler
