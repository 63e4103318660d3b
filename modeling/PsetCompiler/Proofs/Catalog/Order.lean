import PsetCompiler.Proofs.Definition.Set
import PsetCompiler.Proofs.Text.Letter

/-!
# The order of a catalog

A catalog is built by adding definitions, and after each addition its names are in order.  Under
every name stand the definitions that were added for it, in the order of addition.  Nothing more has
to be known of a catalog, as there is only one such list: what was added, sorted by name, where
definitions of one name keep their order.

A release is found whatever its case, so releases that become one when they are brought to capitals
share their definitions, and no others do.

## Main definitions

* `VersionedSet.name` — the name under which an entry is kept.
* `Catalog.Keeps` — the names of a catalog are in order, with what was added under each of them.
* `Catalog.releasesOf` — the releases of some definitions in capitals.

## Main results

* `Catalog.Keeps.add` — one more definition.
* `Catalog.keeps_ofList` — what a catalog keeps that was built from definitions.
* `Catalog.Keeps.entries_eq` — **the entries are what was added, sorted by name.**
* `Catalog.perm_flatMap_forVersion` — the releases part the entries.
* `Catalog.ofList_sorts_stably` — **a catalog is a stable sort of what was added.**
-/

namespace PsetCompiler

/-- The name under which an entry is kept. -/
def VersionedSet.name (entry : VersionedSet) : String :=
  entry.definition.name

/-- Distinct keys part a list into the items of each, if every item has one of them. -/
theorem perm_flatMap_filter {α κ : Type} [DecidableEq κ] {key : α → κ} {keys : List κ}
    (hkeys : keys.Nodup) {l : List α} (h : ∀ a ∈ l, key a ∈ keys) :
    (keys.flatMap fun k => l.filter (key · = k)).Perm l := by
  induction keys generalizing l with
  | nil =>
    obtain rfl : l = [] := List.eq_nil_iff_forall_not_mem.mpr fun a ha => List.not_mem_nil (h a ha)
    exact .nil
  | cons k keys ih =>
    obtain ⟨hk, hkeys⟩ := List.nodup_cons.mp hkeys
    -- the items of the other keys are among those that do not have the first one
    have hrest : (keys.flatMap fun k' => l.filter (key · = k')) =
        keys.flatMap fun k' => (l.filter fun a => !decide (key a = k)).filter (key · = k') := by
      refine List.flatMap_congr fun k' hk' => ?_
      rw [List.filter_filter]
      refine List.filter_congr fun a _ => ?_
      have hne : k' ≠ k := fun heq => hk (heq ▸ hk')
      by_cases ha : key a = k'
      · simp [ha, hne]
      · simp [ha]
    rw [List.flatMap_cons, hrest]
    refine ((ih hkeys fun a ha => ?_).append_left _).trans (List.filter_append_perm _ l)
    rw [List.mem_filter, Bool.not_eq_true', decide_eq_false_iff_not] at ha
    exact (List.mem_cons.mp (h a ha.1)).resolve_left ha.2

namespace Catalog

/-! ### One more definition -/

/-- An entry is put behind those that stand under its name. -/
theorem insert_eq_putEntry (name : String) (entry : VersionedSet)
    {l : List (String × List VersionedSet)} (hl : (l.map (·.1)).Nodup) :
    insert name entry l = putEntry l name ((l.lookup name).getD [] ++ [entry]) := by
  induction l with
  | nil => rfl
  | cons head l ih =>
    obtain ⟨key, entries⟩ := head
    obtain ⟨hnew, hl⟩ := List.nodup_cons.mp hl
    rw [insert]
    by_cases hkey : key = name
    · subst hkey
      rw [if_pos rfl, List.lookup_cons_self, putEntry_cons_self hnew]
      rfl
    · have hlookup : List.lookup name ((key, entries) :: l) = l.lookup name := by
        rw [List.lookup_cons, beq_eq_false_iff_ne.mpr (Ne.symm hkey)]
      rw [if_neg hkey, hlookup, putEntry_cons_of_ne hkey, ih hl]

/-- Entries of one name stand together, if every entry stands under its own name. -/
theorem filter_flatMap_eq_lookup {l : List (String × List VersionedSet)}
    (hl : (l.map (·.1)).Nodup) (h : ∀ e ∈ l, ∀ entry ∈ e.2, entry.name = e.1) (name : String) :
    (l.flatMap (·.2)).filter (·.name == name) = (l.lookup name).getD [] := by
  induction l with
  | nil => rfl
  | cons e l ih =>
    obtain ⟨hnew, hl⟩ := List.nodup_cons.mp hl
    rw [List.forall_mem_cons] at h
    rw [List.flatMap_cons, List.filter_append, ih hl h.2, List.lookup_cons]
    by_cases hname : name = e.1
    · -- no other entry has this name
      subst hname
      have hnone : l.lookup e.1 = none := lookup_eq_none_iff_notMem_keys.mpr hnew
      have hall : e.2.filter (·.name == e.1) = e.2 :=
        List.filter_eq_self.mpr fun entry hentry => beq_iff_eq.mpr (h.1 entry hentry)
      rw [hnone, hall, beq_self_eq_true]
      exact List.append_nil _
    · have hempty : e.2.filter (·.name == name) = [] := by
        rw [List.filter_eq_nil_iff]
        intro entry hentry heq
        exact hname ((beq_iff_eq.mp heq).symm.trans (h.1 entry hentry))
      rw [hempty, beq_eq_false_iff_ne.mpr hname]
      rfl

theorem size_eq (catalog : Catalog) : catalog.size = catalog.entries.length := by
  have hperm : catalog.entries.Perm (catalog.definitions.flatMap (·.2)) :=
    (Text.perm_sortBy _ catalog.definitions).flatMap_right _
  rw [size, hperm.length_eq]

/-! ### What a catalog keeps -/

/-- The names of a catalog are in order, and under each of them stand the entries that were added
for it, in the order of addition. -/
structure Keeps (catalog : Catalog) (added : List VersionedSet) : Prop where
  increasing : (catalog.definitions.map (·.1)).Pairwise (· < ·)
  found (name : String) :
    (catalog.definitions.lookup name).getD [] = added.filter (·.name == name)

theorem keeps_empty : Keeps {} [] where
  increasing := .nil
  found _ := rfl

namespace Keeps

variable {catalog : Catalog} {added : List VersionedSet} (h : catalog.Keeps added)
include h

theorem nodup : (catalog.definitions.map (·.1)).Nodup :=
  h.increasing.imp String.ne_of_lt

/-- One more definition. -/
theorem add (release : String) (pset : PropertySet) :
    (catalog.add release pset).Keeps (added ++ [⟨release, pset⟩]) := by
  have hput := insert_eq_putEntry pset.name ⟨release, pset⟩ h.nodup
  have hnodup : ((insert pset.name ⟨release, pset⟩ catalog.definitions).map (·.1)).Nodup := by
    rw [hput]
    exact nodup_keys_putEntry h.nodup _ _
  constructor
  · exact List.pairwise_map.mpr (Text.pairwise_lt_sortBy _ hnodup)
  · intro name
    rw [Catalog.add, lookup_sortBy hnodup, hput, lookup_putEntry, h.found, List.filter_append]
    by_cases hname : name = pset.name
    · subst hname
      simp [VersionedSet.name]
    · simp [VersionedSet.name, hname, Ne.symm hname, h.found]

/-- What stands under a name was added for it. -/
theorem eq_filter {e : String × List VersionedSet} (he : e ∈ catalog.definitions) :
    e.2 = added.filter (·.name == e.1) := by
  have hfound := h.found e.1
  rwa [(lookup_eq_some_iff_mem h.nodup).mpr he, Option.getD_some] at hfound

theorem name_eq {e : String × List VersionedSet} (he : e ∈ catalog.definitions)
    {entry : VersionedSet} (hentry : entry ∈ e.2) : entry.name = e.1 := by
  rw [h.eq_filter he, List.mem_filter, beq_iff_eq] at hentry
  exact hentry.2

/-- The entries are in order of name. -/
theorem pairwise_flatMap :
    (catalog.definitions.flatMap (·.2)).Pairwise fun a b => a.name ≤ b.name := by
  rw [List.pairwise_flatMap]
  refine ⟨fun e he => ?_, ?_⟩
  · refine List.pairwise_of_forall_mem_list fun a ha b hb => ?_
    have hsame : a.name = b.name := (h.name_eq he ha).trans (h.name_eq he hb).symm
    exact hsame ▸ String.le_refl a.name
  · refine (List.pairwise_map.mp h.increasing).imp_of_mem fun he he' hlt a ha b hb => ?_
    rw [h.name_eq he ha, h.name_eq he' hb]
    exact Std.le_of_lt hlt

/-- The entries of one name are those that were added for it, in the order of addition. -/
theorem filter_flatMap (name : String) :
    (catalog.definitions.flatMap (·.2)).filter (·.name == name) =
      added.filter (·.name == name) := by
  rw [← h.found]
  exact filter_flatMap_eq_lookup h.nodup (fun e he _ => h.name_eq he) name

/-- **The entries are what was added, sorted by name.** -/
theorem entries_eq : catalog.entries = Text.sortBy VersionedSet.name added := by
  have hsorted : catalog.sorted = catalog.definitions :=
    Text.sortBy_of_pairwise _ ((List.pairwise_map.mp h.increasing).imp Std.le_of_lt)
  rw [entries, hsorted]
  exact Text.eq_sortBy_of_filter_key _ h.pairwise_flatMap h.filter_flatMap

end Keeps

/-- What a catalog keeps to which definitions were added one by one. -/
theorem keeps_ofList (definitions : List (String × PropertySet)) :
    (ofList definitions).Keeps (definitions.map fun d => ⟨d.1, d.2⟩) := by
  -- the catalog is built from the front, so the last definition is the one that was added last
  induction definitions using List.reverseRecOn with
  | nil => exact keeps_empty
  | append_singleton definitions d ih =>
    rw [ofList, List.foldl_append, List.foldl_cons, List.foldl_nil, List.map_append,
      List.map_singleton]
    exact ih.add d.1 d.2

/-! ### Releases -/

/-- The releases of some definitions in capitals, each of them once. -/
def releasesOf (definitions : List (String × PropertySet)) : List String :=
  (definitions.map fun d => Text.upper d.1).eraseDups

theorem upper_of_mem_releasesOf {definitions : List (String × PropertySet)} {release : String}
    (h : release ∈ releasesOf definitions) : Text.upper release = release := by
  obtain ⟨d, -, rfl⟩ := List.mem_map.mp (List.mem_eraseDups.mp h)
  exact Text.upper_upper d.1

theorem upper_mem_releasesOf {definitions : List (String × PropertySet)} {entry : VersionedSet}
    (h : entry ∈ (ofList definitions).entries) :
    Text.upper entry.release ∈ releasesOf definitions :=
  List.mem_eraseDups.mpr
    (List.mem_map.mpr ⟨(entry.release, entry.definition), mem_entries_ofList.mp h, rfl⟩)

/-- A release gives the definitions whose releases are the same in capitals. -/
theorem forVersion_eq (catalog : Catalog) (version : String) :
    catalog.forVersion version =
      (catalog.entries.filter fun e => Text.upper e.release = Text.upper version).map
        (·.definition) := rfl

theorem forVersion_ne_nil {definitions : List (String × PropertySet)} {release : String}
    (h : release ∈ releasesOf definitions) : (ofList definitions).forVersion release ≠ [] := by
  obtain ⟨d, hd, rfl⟩ := List.mem_map.mp (List.mem_eraseDups.mp h)
  have hentry : (⟨d.1, d.2⟩ : VersionedSet) ∈ (ofList definitions).entries :=
    mem_entries_ofList.mpr hd
  rw [forVersion_eq, ne_eq, List.map_eq_nil_iff, List.filter_eq_nil_iff]
  intro hnone
  exact hnone _ hentry (decide_eq_true (Text.upper_upper d.1).symm)

/-- The releases in capitals part the entries. -/
theorem perm_flatMap_forVersion (definitions : List (String × PropertySet)) :
    ((releasesOf definitions).flatMap (ofList definitions).forVersion).Perm
      ((ofList definitions).entries.map (·.definition)) := by
  have hparts : (releasesOf definitions).flatMap (ofList definitions).forVersion =
      ((releasesOf definitions).flatMap fun release =>
        (ofList definitions).entries.filter (Text.upper ·.release = release)).map
          (·.definition) := by
    rw [List.map_flatMap]
    refine List.flatMap_congr fun release hrelease => ?_
    rw [forVersion_eq, upper_of_mem_releasesOf hrelease]
  rw [hparts]
  exact (perm_flatMap_filter (nodup_eraseDups _) fun _ => upper_mem_releasesOf).map _

/-- **A catalog is a stable sort of what was added.**  Its entries are the definitions that were
added, each as often as it was added, in order of name, and those of one name in the order of
addition.  The names under which they are kept are strictly in order, and it is as large as there
were additions.  A release gives the definitions whose releases are the same in capitals, so the
releases in capitals part the entries. -/
theorem ofList_sorts_stably (definitions : List (String × PropertySet)) :
    let catalog := ofList definitions
    let added : List VersionedSet := definitions.map fun d => ⟨d.1, d.2⟩
    (catalog.entries = Text.sortBy VersionedSet.name added ∧
        catalog.entries.Perm added ∧
        catalog.entries.Pairwise (fun a b => a.name ≤ b.name) ∧
        ∀ name, catalog.entries.filter (·.name == name) = added.filter (·.name == name)) ∧
      (catalog.definitions.map (·.1)).Pairwise (· < ·) ∧
      catalog.size = definitions.length ∧
      (∀ version, catalog.forVersion version =
        (catalog.entries.filter fun e => Text.upper e.release = Text.upper version).map
          (·.definition)) ∧
      (∀ release ∈ releasesOf definitions, catalog.forVersion release ≠ []) ∧
      ((releasesOf definitions).flatMap catalog.forVersion).Perm
        (catalog.entries.map (·.definition)) := by
  intro catalog added
  have hkeeps := keeps_ofList definitions
  have hentries : catalog.entries = Text.sortBy VersionedSet.name added := hkeeps.entries_eq
  have hperm : catalog.entries.Perm added := perm_entries_ofList definitions
  refine ⟨⟨hentries, hperm, ?_, ?_⟩, hkeeps.increasing, ?_, catalog.forVersion_eq,
    fun _ => forVersion_ne_nil, perm_flatMap_forVersion definitions⟩
  · rw [hentries]
    exact Text.pairwise_sortBy _ added
  · rw [hentries]
    exact Text.filter_key_sortBy _ added
  · rw [size_eq, hperm.length_eq, List.length_map]

end Catalog

end PsetCompiler
