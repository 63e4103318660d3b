import PsetCompiler.Proofs.Entity.Walk

/-!
# The forests that declarations make

Every declaration keeps a forest well formed, whatever its arguments: a parent may be made before
its own declaration, an entity may move to another parent, and a link that would close a cycle is
refused.  Only the last point needs thought.  A link from a child to a parent is made when the
child is not on the way up from the parent; that way therefore stays as it was, and every way that
came to the child now goes on along it.

## Main definitions

* `Forest.IsForest` — what holds of the parents, the children and the walks of a forest.

## Main results

* `Forest.parent?_link`, `Forest.WellFormed.children_link` — what a link does to both of its ends.
* `Forest.WellFormed.add` — a declaration keeps a forest well formed.
* `Forest.isForest_addRecords` — **every sequence of declarations makes a forest.**
-/

namespace PsetCompiler

namespace Forest

variable {forest : Forest}

/-! ### The parts of a declaration -/

theorem wellFormed_empty (version : String) (enums : List (String × List String)) :
    WellFormed { version, predefinedTypeEnums := enums } where
  nodup_keys := .nil
  key_eq := by simp
  isEntityName := by simp
  nodup_links := .nil
  child_mem := by simp
  parent_mem := by simp
  grounded := fun _ => ⟨[], .root rfl⟩

theorem links_ensure (forest : Forest) (name : String) :
    (forest.ensure name).links = forest.links := by
  unfold ensure
  split <;> rfl

/-- What was stored stays stored. -/
theorem keys_subset_ensure (forest : Forest) (name : String) :
    forest.entities.map (·.1) ⊆ (forest.ensure name).entities.map (·.1) := by
  unfold ensure
  split
  · exact fun _ => id
  · rw [List.map_append]
    exact List.subset_append_left _ _

theorem mem_keys_ensure (forest : Forest) (name : String) :
    Text.foldCase name ∈ (forest.ensure name).entities.map (·.1) := by
  unfold ensure
  split
  · next h => exact lookup_isSome_iff_mem_keys.mp h
  · simp

theorem keys_modify (forest : Forest) (key : String) (f : Entity → Entity) :
    (forest.modify key f).entities.map (·.1) = forest.entities.map (·.1) := by
  unfold modify
  rw [List.map_map]
  refine List.map_congr_left fun entry _ => ?_
  simp only [Function.comp_apply]
  split
  · next h => exact (eq_of_beq h).symm
  · rfl

/-! ### What a declaration changes -/

theorem entity?_ensure (forest : Forest) (name key : String) :
    (forest.ensure name).entity? key =
      if key = Text.foldCase name then some ((forest.entity? key).getD { name })
      else forest.entity? key := by
  unfold ensure
  by_cases hkey : key = Text.foldCase name
  · subst hkey
    rw [if_pos rfl]
    cases h : forest.entity? (Text.foldCase name) with
    | some e => simp [h]
    | none =>
      have hlookup : forest.entities.lookup (Text.foldCase name) = none := h
      simp [entity?, List.lookup_append, hlookup]
  · have hne : (key == Text.foldCase name) = false := beq_eq_false_iff_ne.mpr hkey
    rw [if_neg hkey]
    split
    · rfl
    · rw [entity?, List.lookup_append, List.lookup_cons, hne, List.lookup_nil, Option.or_none,
        entity?]

/-- An entity that is there afterwards was there before, or was made with nothing but its name. -/
theorem entity?_of_ensure {name key : String} {e : Entity}
    (h : (forest.ensure name).entity? key = some e) :
    forest.entity? key = some e ∨ key = Text.foldCase name ∧ e = { name } := by
  rw [entity?_ensure] at h
  split at h
  · next hkey =>
    cases hold : forest.entity? key with
    | none =>
      rw [hold] at h
      exact .inr ⟨hkey, (Option.some.inj h).symm⟩
    | some old =>
      rw [hold] at h
      exact .inl h
  · exact .inl h

theorem entity?_modify (forest : Forest) (key : String) (f : Entity → Entity) (other : String) :
    (forest.modify key f).entity? other =
      if other = key then (forest.entity? key).map f else forest.entity? other := by
  rw [modify, entity?, lookup_map_modify]
  simp only [beq_iff_eq, entity?]

theorem entities_link (forest : Forest) (child parent : String) :
    (forest.link child parent).entities = forest.entities := by
  unfold link
  split <;> rfl

/-- The parent after a link was made. -/
theorem parent?_link (forest : Forest) (child parent key : String) :
    (forest.link child parent).parent? key =
      if key = child then some parent else forest.parent? key := by
  unfold link
  split
  · next h =>
    split
    · next hkey => rw [hkey, h]
    · rfl
  · rw [parent?, List.lookup_append, lookup_filter_ne, List.lookup_cons, List.lookup_nil]
    by_cases hkey : key = child
    · simp [hkey]
    · have hne : (key == child) = false := beq_eq_false_iff_ne.mpr hkey
      simp [hkey, hne, parent?]

theorem mem_links_link {child parent : String} {entry : String × String}
    (h : entry ∈ (forest.link child parent).links) :
    entry ∈ forest.links ∨ entry = (child, parent) := by
  unfold link at h
  split at h
  · exact .inl h
  · rcases List.mem_append.mp h with h | h
    · exact .inl (List.mem_of_mem_filter h)
    · exact .inr (List.mem_singleton.mp h)

/-! ### The invariant is kept -/

namespace Climbs

/-- A way up that does not come to the child of a new link stays as it was. -/
theorem link_of_notMem {child parent key : String} {above : List String}
    (h : forest.Climbs key above) (hchild : child ∉ key :: above) :
    (forest.link child parent).Climbs key above := by
  induction h with
  | @root key h =>
    rw [List.mem_cons, not_or] at hchild
    exact .root (by rw [parent?_link, if_neg (Ne.symm hchild.1), h])
  | @up key _ _ h _ ih =>
    rw [List.mem_cons, not_or] at hchild
    exact .up (by rw [parent?_link, if_neg (Ne.symm hchild.1), h]) (ih hchild.2)

/-- Every way up ends after a link was made, if the child is not on the way up from the parent. -/
theorem exists_link {child parent : String} {abovePart : List String}
    (hparent : forest.Climbs parent abovePart) (hchild : child ∉ parent :: abovePart)
    {key : String} {above : List String} (h : forest.Climbs key above) :
    ∃ above', (forest.link child parent).Climbs key above' := by
  have hchildClimbs : (forest.link child parent).Climbs child (parent :: abovePart) :=
    .up (by rw [parent?_link, if_pos rfl]) (hparent.link_of_notMem hchild)
  induction h with
  | @root key h =>
    by_cases hkey : key = child
    · exact ⟨_, by rw [hkey]; exact hchildClimbs⟩
    · exact ⟨[], .root (by rw [parent?_link, if_neg hkey, h])⟩
  | @up key _ _ h _ ih =>
    by_cases hkey : key = child
    · exact ⟨_, by rw [hkey]; exact hchildClimbs⟩
    · obtain ⟨above', habove'⟩ := ih
      exact ⟨_, .up (by rw [parent?_link, if_neg hkey, h]) habove'⟩

end Climbs

namespace WellFormed

/-- Entities may come in or change while the links stay. -/
theorem of_links_eq (h : forest.WellFormed) {other : Forest} (hlinks : other.links = forest.links)
    (hkeys : forest.entities.map (·.1) ⊆ other.entities.map (·.1))
    (hnodup : (other.entities.map (·.1)).Nodup)
    (hentries : ∀ entry ∈ other.entities, entry.1 = Text.foldCase entry.2.name ∧
      PsetCompiler.isEntityName entry.2.name = true) : other.WellFormed where
  nodup_keys := hnodup
  key_eq := fun entry hentry => (hentries entry hentry).1
  isEntityName := fun entry hentry => (hentries entry hentry).2
  nodup_links := by rw [hlinks]; exact h.nodup_links
  child_mem := fun link hlink => hkeys (h.child_mem link (hlinks ▸ hlink))
  parent_mem := fun link hlink => hkeys (h.parent_mem link (hlinks ▸ hlink))
  grounded := fun key => by
    obtain ⟨above, habove⟩ := h.grounded key
    exact ⟨above, habove.congr hlinks⟩

theorem ensure (h : forest.WellFormed) {name : String}
    (hname : PsetCompiler.isEntityName name = true) : (forest.ensure name).WellFormed := by
  refine h.of_links_eq (links_ensure forest name) (keys_subset_ensure forest name) ?_ ?_
  · unfold Forest.ensure
    split
    · exact h.nodup_keys
    · next hnone =>
      have hkey : Text.foldCase name ∉ forest.entities.map (·.1) :=
        mt lookup_isSome_iff_mem_keys.mpr hnone
      exact nodup_keys_concat hkey h.nodup_keys
  · intro entry hentry
    unfold Forest.ensure at hentry
    split at hentry
    · exact ⟨h.key_eq entry hentry, h.isEntityName entry hentry⟩
    · rcases List.mem_append.mp hentry with hentry | hentry
      · exact ⟨h.key_eq entry hentry, h.isEntityName entry hentry⟩
      · rw [List.mem_singleton.mp hentry]
        exact ⟨rfl, hname⟩

theorem modify (h : forest.WellFormed) (key : String) {f : Entity → Entity}
    (hf : ∀ e, (f e).name = e.name) : (forest.modify key f).WellFormed := by
  have hkeys := keys_modify forest key f
  refine h.of_links_eq rfl (by rw [hkeys]; exact fun _ => id) (by rw [hkeys]; exact h.nodup_keys) ?_
  intro entry hentry
  obtain ⟨old, hold, rfl⟩ := List.mem_map.mp hentry
  split
  · next hkey =>
    rw [hf, ← eq_of_beq hkey]
    exact ⟨h.key_eq old hold, h.isEntityName old hold⟩
  · exact ⟨h.key_eq old hold, h.isEntityName old hold⟩

/-- The children after a link was made: the old parent of the child loses it, and it comes last
among those of the new one. -/
theorem children_link (h : forest.WellFormed) {child parent : String}
    (hnew : forest.parent? child ≠ some parent) (key : String) :
    (forest.link child parent).children key =
      (if forest.parent? child = some key then (forest.children key).erase child
        else forest.children key) ++ if key = parent then [child] else [] := by
  have hlast : (([(child, parent)].filter (·.2 == key)).map (·.1)) =
      if key = parent then [child] else [] := by
    by_cases hkey : key = parent
    · simp [hkey]
    · simp [hkey, Ne.symm hkey]
  have hold : ((forest.links.filter (·.1 != child)).filter (·.2 == key)).map (·.1) =
      (forest.children key).erase child := by
    rw [(h.nodup_children key).erase_eq_filter, children, List.filter_map, List.filter_filter,
      List.filter_filter]
    simp only [Function.comp_def, Bool.and_comm]
  rw [Forest.link, if_neg hnew, children, List.filter_append, List.map_append, hold, hlast]
  congr 1
  -- where the child is not among the children, nothing is lost
  split
  · rfl
  · next hother => exact List.erase_of_not_mem (mt h.mem_children_iff.mp hother)

/-- A link is made between stored entities, when the child is not on the way up from the parent. -/
theorem link (h : forest.WellFormed) {child parent : String}
    (hchild : child ∈ forest.entities.map (·.1)) (hparent : parent ∈ forest.entities.map (·.1))
    (hcycle : child ∉ parent :: forest.ancestors parent) :
    (forest.link child parent).WellFormed := by
  have hentities := entities_link forest child parent
  refine
    { nodup_keys := by rw [hentities]; exact h.nodup_keys
      key_eq := by rw [hentities]; exact h.key_eq
      isEntityName := by rw [hentities]; exact h.isEntityName
      nodup_links := ?_
      child_mem := ?_
      parent_mem := ?_
      grounded := ?_ }
  · unfold Forest.link
    split
    · exact h.nodup_links
    · -- the old link of the child is gone before the new one comes
      refine nodup_keys_concat (fun hmem => ?_) (h.nodup_links.sublist (List.filter_sublist.map _))
      obtain ⟨entry, hentry, heq⟩ := List.mem_map.mp hmem
      simpa [heq] using (List.mem_filter.mp hentry).2
  · intro link hlink
    rw [hentities]
    rcases mem_links_link hlink with hlink | rfl
    · exact h.child_mem link hlink
    · exact hchild
  · intro link hlink
    rw [hentities]
    rcases mem_links_link hlink with hlink | rfl
    · exact h.parent_mem link hlink
    · exact hparent
  · intro key
    obtain ⟨above, habove⟩ := h.grounded key
    exact (h.climbs_ancestors parent).exists_link hcycle habove

theorem isEntityName_of_declaredParent {name : String} {parent : Option String} {found : String}
    (h : (declaredParent name parent).value = some found) :
    PsetCompiler.isEntityName found = true := by
  unfold declaredParent at h
  cases parent with
  | none => cases h
  | some parent =>
    dsimp only at h
    split at h
    · cases h
    · split at h
      · next hname =>
        cases h
        exact hname
      · cases h

/-- **A declaration keeps a forest well formed**, whatever its arguments. -/
theorem add (h : forest.WellFormed) (name : String) (parent enum : Option String)
    (isAbstract : Bool) : (forest.add name parent enum isAbstract).value.WellFormed := by
  unfold Forest.add
  split
  · next hname =>
    rw [Report.value_bind]
    have hdeclared {forest : Forest} (h : forest.WellFormed) :
        ((forest.ensure name).modify (Text.foldCase name)
          (Entity.declared · enum isAbstract)).WellFormed :=
      (h.ensure hname).modify _ fun _ => rfl
    cases hparent : (declaredParent name parent).value with
    | none => exact hdeclared h
    | some found =>
      have hfound := isEntityName_of_declaredParent hparent
      -- the parent is stored first, so that the entity is found if the two are one
      have hmade := hdeclared (h.ensure hfound)
      dsimp only
      split
      · exact hmade
      · next hcycle =>
        rw [not_or] at hcycle
        refine hmade.link ?_ ?_ ?_
        · rw [keys_modify]
          exact mem_keys_ensure _ name
        · rw [keys_modify]
          exact keys_subset_ensure _ name (mem_keys_ensure _ found)
        · rw [List.mem_cons, not_or]
          refine ⟨Ne.symm hcycle.1, fun hmem => hcycle.2 ?_⟩
          exact List.contains_iff_mem.mpr hmem
  · exact h

theorem addRecords (h : forest.WellFormed) (records : List EntityRecord) :
    (forest.addRecords records).value.WellFormed := by
  induction records generalizing forest with
  | nil => exact h
  | cons r rest ih => exact ih (h.add r.name r.parent r.predefinedTypeEnum r.isAbstract)

end WellFormed

/-! ### What holds of every forest that declarations make -/

/-- The keys from which the indented list of the forest, or of one branch, starts. -/
def outlineStarts (forest : Forest) : Option String → List String
  | none => forest.roots
  | some name => (forest.key? name).toList

/-- Parents and children agree, and every walk along the links comes to an end by itself. -/
structure IsForest (forest : Forest) : Prop where
  /-- Keys are case foldings of names, -/
  key_eq : ∀ entry ∈ forest.entities, entry.1 = Text.foldCase entry.2.name
  /-- names begin as those of entities do, -/
  name_start : ∀ entry ∈ forest.entities, Text.startsWith "Ifc" entry.2.name = true
  /-- and no key is there twice. -/
  nodup_keys : (forest.entities.map (·.1)).Nodup
  /-- A key is once among the children of its parent and never among those of another key. -/
  count_children : ∀ child parent, (forest.children parent).count child =
    if forest.parent? child = some parent then 1 else 0
  /-- Who has a parent is stored, and so is the parent. -/
  parent_stored : ∀ child parent, forest.parent? child = some parent →
    child ∈ forest.entities.map (·.1) ∧ parent ∈ forest.entities.map (·.1)
  /-- Who has a child is stored, and so is the child. -/
  child_stored : ∀ parent, ∀ child ∈ forest.children parent,
    child ∈ forest.entities.map (·.1) ∧ parent ∈ forest.entities.map (·.1)
  /-- From a stored entity the parents lead to a root in fewer steps than there are entities. -/
  reaches_root : ∀ key ∈ forest.entities.map (·.1),
    ∃ above, forest.Climbs key above ∧ above.length < forest.size
  /-- The ancestors are those of the way up without a bound. -/
  ancestors_whole : ∀ key, forest.Climbs key (forest.ancestors key)
  /-- The descendants are those of the walk down without a bound. -/
  descendants_whole : ∀ key, ∃ walk, Walks forest.children 0 key walk ∧
    key :: forest.descendants key = walk.map (·.2)
  /-- So is a branch, -/
  branch_whole : ∀ name key, forest.key? name = some key → ∃ walk,
    Walks forest.children 0 key walk ∧
      forest.branch name = walk.map fun entry => forest.nameOf entry.2
  /-- and so is the indented list of the forest or of a branch. -/
  dump_whole : ∀ root, ∃ walk, WalksAll forest.sortedChildren 0 (forest.outlineStarts root) walk ∧
    forest.dump root = String.join ((walk.filterMap fun entry =>
      (forest.entity? entry.2).map (entry.1, ·)).map fun entry => outlineLine entry ++ "\n")

theorem WellFormed.links_stored (h : forest.WellFormed) {child parent : String}
    (hparent : forest.parent? child = some parent) :
    child ∈ forest.entities.map (·.1) ∧ parent ∈ forest.entities.map (·.1) := by
  have hlink := h.parent?_eq_some_iff.mp hparent
  exact ⟨h.child_mem _ hlink, h.parent_mem _ hlink⟩

/-- **Every sequence of declarations makes a forest**, from a forest that holds nothing and
whatever the arguments are: parents that are declared later, entities that move to another parent,
names that are passed over and links that are refused. -/
theorem isForest_addRecords (version : String) (enums : List (String × List String))
    (records : List EntityRecord) :
    (Forest.addRecords { version, predefinedTypeEnums := enums } records).value.IsForest := by
  have h := (wellFormed_empty version enums).addRecords records
  refine
    { key_eq := h.key_eq
      name_start := h.isEntityName
      nodup_keys := h.nodup_keys
      count_children := h.count_children
      parent_stored := fun _ _ => h.links_stored
      child_stored := fun _ _ hchild => h.links_stored (h.mem_children_iff.mp hchild)
      reaches_root := fun key hkey =>
        ⟨_, h.climbs_ancestors key, h.length_ancestors_lt_size hkey⟩
      ancestors_whole := h.climbs_ancestors
      descendants_whole := h.walks_descendants
      branch_whole := ?_
      dump_whole := ?_ }
  · intro name key hkey
    obtain ⟨walk, hwalk, heq⟩ := h.walks_descendants key
    refine ⟨walk, hwalk, ?_⟩
    rw [branch, hkey]
    simp only [heq, List.map_map, Function.comp_def]
  · intro root
    obtain ⟨walk, hwalk, heq⟩ := h.walksAll_outlineFrom 0 (outlineStarts _ root)
    refine ⟨walk, hwalk, ?_⟩
    rw [dump, ← heq]
    cases root <;> rfl

end Forest

end PsetCompiler
