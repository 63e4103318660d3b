import PsetCompiler.Definition.Folder
import PsetCompiler.Proofs.Files.Without

/-!
# Finding definitions

Folders of definitions, and the files in them, are found below a root, and so the path of each of
them goes on from the path of the root.  When files are taken away, the folders are found all the
same, and of the files those that are left.

## Main results

* `exists_parts_of_mem_findFolders`, `exists_parts_of_mem_findFiles` — where what is found is.
* `findFolders_without`, `findFiles_without` — **what is found when files are gone.**
-/

namespace PsetCompiler

open FileTree

variable {t : FileTree} {gone : Place → Bool}

/-- A folder that is found is the root, or it is below it. -/
theorem exists_parts_of_mem_findFolders (hproper : t.IsProper) {root : Path}
    {found : String × Path} (hfound : found ∈ findFolders t root) {place : Place}
    (hlocate : t.locate found.2 = .ok place) :
    ∃ base parts, t.locate root = .ok base ∧
      found.2 = { root with parts := root.parts ++ parts } ∧ place = base ++ parts := by
  unfold findFolders at hfound
  rw [Text.mem_sortBy, Text.mem_sortBy, List.mem_map] at hfound
  obtain ⟨folder, hfolder, rfl⟩ := hfound
  dsimp only [releaseOf] at hlocate ⊢
  rcases List.mem_append.mp hfolder with hroot | hbelow
  · have heq : folder = root := by
      split at hroot
      · exact List.mem_singleton.mp hroot
      · cases hroot
    rw [heq] at hlocate
    exact ⟨place, [], hlocate, by rw [heq, List.append_nil], (List.append_nil _).symm⟩
  · obtain ⟨⟨parts, entry⟩, hmem, hq⟩ := List.mem_filterMap.mp hbelow
    dsimp only at hq
    split at hq
    · cases hq
      cases hbase : t.locate root with
      | error e =>
        rw [below_eq_nil hbase] at hmem
        cases hmem
      | ok base =>
        have hparts := hproper.locate_below hbase hmem
        exact ⟨base, parts, rfl, rfl, Except.ok.inj (hlocate.symm.trans hparts)⟩
    · cases hq

/-- A file that is found is below the folder, and it is a file. -/
theorem exists_parts_of_mem_findFiles (hproper : t.IsProper) {folder : Path}
    {patterns : List String} {q : Path} (hq : q ∈ findFiles t folder patterns) :
    ∃ place parts content, t.locate folder = .ok place ∧
      q = { folder with parts := folder.parts ++ parts } ∧ t.locate q = .ok (place ++ parts) ∧
      t.Holds (place ++ parts) (.file content) := by
  obtain ⟨⟨parts, entry⟩, hmem, hq⟩ := List.mem_filterMap.mp hq
  dsimp only at hq
  split at hq
  · next hkind =>
    cases hq
    cases hplace : t.locate folder with
    | error e =>
      rw [below_eq_nil hplace] at hmem
      cases hmem
    | ok place =>
      obtain ⟨hne, hentry⟩ := (mem_below_iff hplace).mp hmem
      have hholds := hproper.holds_of_mem (by simp [hne]) hentry
      cases entry with
      | folder => simp at hkind
      | file content =>
        exact ⟨place, parts, content, rfl, rfl, hproper.locate_below hplace hmem, hholds⟩
  · cases hq

/-- The folders of definitions are found whatever files are gone. -/
theorem findFolders_without (hproper : t.IsProper)
    (hfiles : ∀ place, t.Holds place .folder → gone place = false) (root : Path) :
    findFolders (t.without gone) root = findFolders t root := by
  suffices hinside : ∀ f : List String × Entry → Option Path,
      (∀ found q, f found = some q → found.2 = .folder) →
        ((t.without gone).below root).filterMap f = (t.below root).filterMap f by
    unfold findFolders
    rw [hinside]
    rintro ⟨parts, entry⟩ q hq
    dsimp only at hq
    split at hq
    · next h => exact eq_of_beq (Bool.and_eq_true_iff.mp h).1
    · cases hq
  intro f hf
  cases hlocate : t.locate root with
  | error e =>
    rw [below_without_eq_nil hfiles hlocate, below_eq_nil hlocate]
  | ok place =>
    rw [below_without hfiles hlocate]
    refine (filterMap_filter_of_forall fun found hfound q hq => ?_).trans (List.filter_true _)
    -- a folder is in its place, so it is not gone
    obtain ⟨hne, hmem⟩ := (mem_below_iff hlocate).mp hfound
    rw [hf found q hq] at hmem
    rw [hfiles _ (hproper.holds_of_mem (by simp [hne]) hmem)]
    rfl

/-- The files of a folder are found less those that are gone. -/
theorem findFiles_without (hproper : t.IsProper)
    (hfiles : ∀ place, t.Holds place .folder → gone place = false) (folder : Path)
    (patterns : List String) :
    findFiles (t.without gone) folder patterns =
      (findFiles t folder patterns).filter fun q => !t.leadsInto gone q := by
  unfold findFiles
  cases hlocate : t.locate folder with
  | error e =>
    rw [below_without_eq_nil hfiles hlocate, below_eq_nil hlocate]
    rfl
  | ok place =>
    rw [below_without hfiles hlocate]
    refine filterMap_filter_of_forall fun found hfound q hq => ?_
    obtain ⟨parts, entry⟩ := found
    dsimp only at hq
    split at hq
    · cases hq
      rw [leadsInto_of_locate (hproper.locate_below hlocate hfound)]
    · cases hq

end PsetCompiler
