import PsetCompiler.Proofs.Catalog.Order
import PsetCompiler.Proofs.Stage.Definitions

/-!
# The predefined sets of a batch

The predefined sets are there for every release, although no file defines them.  A batch adds them
with each folder of definitions, behind the definitions of its files.  It does not ask whether the
release of the folder was met before: folders in different places can be those of one release, and
so can folders whose names differ in case.  Then the sets of the release are added once for each of
them, and nothing is reported.

## Main definitions

* `Batch.releases` — the releases of the folders that a batch goes through, one for each.
* `Batch.SparesPredefined` — no file defines a predefined set.
* `Batch.entriesOf` — what a catalog holds of one name for one release.

## Main results

* `Batch.filter_addedIn` — what a folder adds of a predefined set.
* `Batch.entriesOf_collect` — how often the catalog holds one.
* `Batch.predefined_once_iff` — **when a batch adds the predefined sets once for a release.**
-/

namespace PsetCompiler

/-! ### Lists with different keys -/

section

variable {α κ : Type} [DecidableEq κ] {key : α → κ}

/-- Where keys are different, only one thing has the key of a thing. -/
theorem filter_key_eq_singleton {l : List α} (h : (l.map key).Nodup) {a : α} (ha : a ∈ l) :
    l.filter (fun b => key b = key a) = [a] := by
  induction l with
  | nil => cases ha
  | cons b l ih =>
    rw [List.map_cons, List.nodup_cons] at h
    rcases List.mem_cons.mp ha with rfl | ha
    · have hnone : l.filter (fun b => key b = key a) = [] := by
        rw [List.filter_eq_nil_iff]
        intro b hb heq
        exact h.1 (of_decide_eq_true heq ▸ List.mem_map_of_mem hb)
      rw [List.filter_cons_of_pos (by simp), hnone]
    · have hne : key b ≠ key a := by
        intro heq
        exact h.1 (heq ▸ List.mem_map_of_mem ha)
      rw [List.filter_cons_of_neg (by simpa using hne), ih h.2 ha]

/-- A thing that is taken once for every occurrence of a key. -/
theorem flatMap_ite_eq_replicate {β : Type} (l : List α) (k : κ) (b : β) :
    (l.flatMap fun a => if key a = k then [b] else []) =
      List.replicate ((l.map key).count k) b := by
  induction l with
  | nil => rfl
  | cons a l ih =>
    rw [List.flatMap_cons, ih, List.map_cons]
    by_cases hkey : key a = k
    · rw [if_pos hkey, hkey, List.count_cons_self, List.replicate_succ]
      rfl
    · rw [if_neg hkey, List.count_cons_of_ne hkey]
      rfl

end

/-! ### Predefined sets -/

theorem nodup_names_allPredefinedSets : (allPredefinedSets.map (·.name)).Nodup := by
  decide

/-- The predefined sets of a release have different names. -/
theorem nodup_names_predefinedSets (release : String) :
    ((predefinedSets release).map (·.name)).Nodup := by
  rw [predefinedSets, List.map_map]
  exact nodup_names_allPredefinedSets

theorem predefinedSets_ne_nil (release : String) : predefinedSets release ≠ [] :=
  List.cons_ne_nil _ _

namespace Batch

variable {files : FileTree} {settings : DefinitionSettings} {folder : Path}

/-- The releases of the folders that a batch goes through, one for each folder. -/
def releases (files : FileTree) (settings : DefinitionSettings) (folder : Path) : List String :=
  (folders files settings folder).map (·.1)

/-- No file that is visited defines a set with the name of a predefined one. -/
def SparesPredefined (files : FileTree) (settings : DefinitionSettings) (folder : Path) : Prop :=
  ∀ visit ∈ visits files settings folder, ∀ d ∈ definition? files visit,
    d.2.name ∉ allPredefinedSets.map (·.name)

/-- What a catalog holds of one name for one release. -/
def entriesOf (catalog : Catalog) (name release : String) : List VersionedSet :=
  catalog.entries.filter fun entry => entry.name = name ∧ entry.release = release

/-- What a folder adds of a predefined set: the set itself, if the folder is one of the release. -/
theorem filter_addedIn (hincluded : settings.includePredefined = true)
    (hspares : SparesPredefined files settings folder) {found : String × Path}
    (hfound : found ∈ folders files settings folder) {release : String} {pset : PropertySet}
    (hpset : pset ∈ predefinedSets release) :
    (addedIn files settings found).filter (fun d => d.2.name = pset.name ∧ d.1 = release) =
      if found.1 = release then [(release, pset)] else [] := by
  have hread : ((visitsIn files settings found).filterMap (definition? files)).filter
      (fun d => d.2.name = pset.name ∧ d.1 = release) = [] := by
    rw [List.filter_eq_nil_iff]
    intro d hd heq
    obtain ⟨visit, hvisit, hdefinition⟩ := List.mem_filterMap.mp hd
    have hname : d.2.name = pset.name := (of_decide_eq_true heq).1
    obtain ⟨s, hs, rfl⟩ := List.mem_map.mp hpset
    refine hspares visit (List.mem_flatMap.mpr ⟨found, hfound, hvisit⟩) d hdefinition ?_
    exact hname ▸ List.mem_map_of_mem hs
  rw [addedIn, if_pos hincluded, List.filter_append, hread, List.nil_append, List.filter_map]
  by_cases hrelease : found.1 = release
  · subst hrelease
    have hone := filter_key_eq_singleton (nodup_names_predefinedSets found.1) hpset
    have hfilter : (predefinedSets found.1).filter ((fun d : String × PropertySet =>
        decide (d.2.name = pset.name ∧ d.1 = found.1)) ∘ (found.1, ·)) = [pset] := by
      rw [← hone]
      refine List.filter_congr fun pset' _ => ?_
      simp
    rw [hfilter, if_pos rfl]
    rfl
  · have hnone : (predefinedSets found.1).filter ((fun d : String × PropertySet =>
        decide (d.2.name = pset.name ∧ d.1 = release)) ∘ (found.1, ·)) = [] := by
      rw [List.filter_eq_nil_iff]
      intro pset' _
      simp [hrelease]
    rw [hnone, if_neg hrelease]
    rfl

/-- The catalog holds a predefined set for a release as often as the release has folders. -/
theorem entriesOf_collect (hincluded : settings.includePredefined = true)
    (hspares : SparesPredefined files settings folder) {batch : Batch}
    (h : (collect files settings folder).run.value = .ok batch) {release : String}
    {pset : PropertySet} (hpset : pset ∈ predefinedSets release) :
    entriesOf batch.catalog pset.name release =
      List.replicate ((releases files settings folder).count release) ⟨release, pset⟩ := by
  have hcontained := exists_value_collect_iff.mp ⟨batch, h⟩
  obtain rfl := Except.ok.inj (h.symm.trans (congrArg Report.value (run_collect hcontained)))
  have hadded : (added files settings folder).filter
      (fun d => d.2.name = pset.name ∧ d.1 = release) =
        List.replicate ((releases files settings folder).count release) (release, pset) := by
    rw [added, List.filter_flatMap, releases, ← flatMap_ite_eq_replicate]
    exact List.flatMap_congr fun found hfound => filter_addedIn hincluded hspares hfound hpset
  -- under a name the catalog holds what was added for it, in order
  have hname (l : List VersionedSet) :
      l.filter (fun e => e.name = pset.name ∧ e.release = release) =
        (l.filter (·.name == pset.name)).filter fun e => e.release = release := by
    rw [List.filter_filter]
    refine List.filter_congr fun e _ => ?_
    show _ = (decide (e.release = release) && decide (e.name = pset.name))
    rw [Bool.decide_and, Bool.and_comm]
  rw [entriesOf, (Catalog.keeps_ofList _).entries_eq, hname, Text.filter_key_sortBy, ← hname,
    List.filter_map]
  have hmap := congrArg (List.map fun d => (⟨d.1, d.2⟩ : VersionedSet)) hadded
  rw [List.map_replicate] at hmap
  exact hmap

/-- **When a batch adds the predefined sets once for a release.**  A batch comes to its end exactly
when no visit fails for a reason beyond its file.  Where no file defines a predefined set, its
catalog then holds each predefined set for a release as often as the release has folders, so it
holds each of them once for every release exactly if the folders are those of different releases.
-/
theorem predefined_once_iff (hincluded : settings.includePredefined = true)
    (hspares : SparesPredefined files settings folder) :
    ((∃ batch, (collect files settings folder).run.value = .ok batch) ↔
        ∀ visit ∈ visits files settings folder, IsContained files visit) ∧
      ∀ batch, (collect files settings folder).run.value = .ok batch →
        (∀ release, ∀ pset ∈ predefinedSets release,
          entriesOf batch.catalog pset.name release =
            List.replicate ((releases files settings folder).count release) ⟨release, pset⟩) ∧
          ((∀ release ∈ releases files settings folder, ∀ pset ∈ predefinedSets release,
              (entriesOf batch.catalog pset.name release).length = 1) ↔
            (releases files settings folder).Nodup) := by
  refine ⟨exists_value_collect_iff, fun batch hbatch => ?_⟩
  have hentries (release : String) (pset : PropertySet) (hpset : pset ∈ predefinedSets release) :=
    entriesOf_collect hincluded hspares hbatch hpset
  refine ⟨hentries, ?_⟩
  rw [List.nodup_iff_count_eq_one]
  constructor
  · intro hone release hrelease
    obtain ⟨pset, hpset⟩ := List.exists_mem_of_ne_nil _ (predefinedSets_ne_nil release)
    have hlength := hone release hrelease pset hpset
    rwa [hentries release pset hpset, List.length_replicate] at hlength
  · intro hone release hrelease pset hpset
    rw [hentries release pset hpset, List.length_replicate]
    exact hone release hrelease

/-! Two folders of one release, in which there are no files. -/

def twinTree : FileTree where
  entries :=
    [(["a"], .folder), (["a", "IFC4"], .folder), (["a", "IFC4", "psd"], .folder), (["b"], .folder),
      (["b", "IFC4"], .folder), (["b", "IFC4", "psd"], .folder)]

/-- The two folders with their release. -/
def twinFolders : List (String × Path) :=
  [("IFC4", { parts := ["a", "IFC4", "psd"] }), ("IFC4", { parts := ["b", "IFC4", "psd"] })]

theorem folders_twinTree : folders twinTree {} {} = twinFolders := by
  have hbelow : twinTree.below {} = twinTree.entries :=
    Text.sortBy_of_pairwise _ (by decide)
  have hfound : findFolders twinTree {} = twinFolders := by
    unfold findFolders
    rw [hbelow]
    show Text.sortBy (·.1) (Text.sortBy (·.2.text) twinFolders) = _
    rw [Text.sortBy_of_pairwise, Text.sortBy_of_pairwise]
    · decide
    · rw [Text.sortBy_of_pairwise] <;> decide
  unfold folders
  rw [hfound]
  rfl

theorem releases_twinTree : releases twinTree {} {} = ["IFC4", "IFC4"] := by
  rw [releases, folders_twinTree]
  rfl

theorem visits_twinTree : visits twinTree {} {} = [] := by
  rw [visits, folders_twinTree]
  decide +kernel

theorem sparesPredefined_twinTree : SparesPredefined twinTree {} {} := by
  unfold SparesPredefined
  rw [visits_twinTree]
  exact nofun

theorem exists_value_collect_twinTree :
    ∃ batch, (collect twinTree {} {}).run.value = .ok batch := by
  rw [exists_value_collect_iff, visits_twinTree]
  exact nofun

theorem predefined_once_iff_twinTree :
    ({} : DefinitionSettings).includePredefined = true ∧ SparesPredefined twinTree {} {} ∧
      ∃ batch, (collect twinTree {} {}).run.value = .ok batch ∧
        ∀ pset ∈ predefinedSets "IFC4",
          entriesOf batch.catalog pset.name "IFC4" = [⟨"IFC4", pset⟩, ⟨"IFC4", pset⟩] := by
  obtain ⟨-, hbatch⟩ := predefined_once_iff rfl sparesPredefined_twinTree
  obtain ⟨batch, hvalue⟩ := exists_value_collect_twinTree
  refine ⟨rfl, sparesPredefined_twinTree, batch, hvalue, fun pset hpset => ?_⟩
  rw [(hbatch batch hvalue).1 "IFC4" pset hpset, releases_twinTree]
  rfl

/-- The predefined sets are in the catalog twice for a release with two folders. -/
theorem not_predefined_once_twinTree :
    SparesPredefined twinTree {} {} ∧
      ∃ batch, (collect twinTree {} {}).run.value = .ok batch ∧
        ∃ pset ∈ predefinedSets "IFC4", (entriesOf batch.catalog pset.name "IFC4").length = 2 := by
  obtain ⟨batch, hvalue⟩ := exists_value_collect_twinTree
  obtain ⟨pset, hpset⟩ := List.exists_mem_of_ne_nil _ (predefinedSets_ne_nil "IFC4")
  refine ⟨sparesPredefined_twinTree, batch, hvalue, pset, hpset, ?_⟩
  rw [entriesOf_collect rfl sparesPredefined_twinTree hvalue hpset, releases_twinTree]
  rfl

end Batch

end PsetCompiler
