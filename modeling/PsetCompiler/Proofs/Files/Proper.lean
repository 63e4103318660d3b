import PsetCompiler.Proofs.Files.Tree
import Mathlib.Data.List.Induction

/-!
# Proper trees

A file system has one thing in a place, and everything in it is in a folder.  A tree of files that is
like that stays so whatever is written, so the trees that runs see are proper if the first one is.

## Main definitions

* `FileTree.IsProper` — a tree as a file system has it.

## Main results

* `IsProper.follow_of_mem` — a path leads to what is in the tree, name by name.
* `IsProper.store` — **a tree stays proper when files are written.**
-/

namespace PsetCompiler

namespace FileTree

open Text (Bytes)

variable {t u : FileTree}

/-- A tree as a file system has it: no two things are in one place, no name is two points, everything
is in a folder, and relative paths start from one. -/
structure IsProper (tree : FileTree) : Prop where
  nodup : (tree.entries.map (·.1)).Nodup
  named : ∀ e ∈ tree.entries, ".." ∉ e.1
  held : ∀ e ∈ tree.entries, tree.Holds e.1.dropLast .folder
  home : tree.Holds tree.working .folder

theorem IsProper.holds_of_mem (h : t.IsProper) {place : Place} (hne : place ≠ []) {e : Entry}
    (hmem : (place, e) ∈ t.entries) : t.Holds place e :=
  (holds_iff_lookup hne).mpr ((lookup_eq_some_iff_mem h.nodup).mpr hmem)

/-- Everything is in a folder, which is in a folder, and so on. -/
theorem IsProper.folder_of_mem (h : t.IsProper) {place : Place} {parts : List String} {e : Entry}
    (hmem : (place ++ parts, e) ∈ t.entries) (hne : parts ≠ []) : t.Holds place .folder := by
  induction parts using List.reverseRecOn generalizing e with
  | nil => exact absurd rfl hne
  | append_singleton parts last ih =>
    have hfolder : t.Holds (place ++ parts) .folder := by
      have hheld := h.held _ hmem
      rwa [← List.append_assoc, List.dropLast_concat] at hheld
    by_cases hparts : parts = []
    · rwa [hparts, List.append_nil] at hfolder
    · have hplace : place ++ parts ≠ [] := mt List.append_eq_nil_iff.mp fun hnil => hparts hnil.2
      exact ih (mem_of_lookup ((holds_iff_lookup hplace).mp hfolder)) hparts

/-- A path leads to what is in the tree, name by name. -/
theorem IsProper.follow_of_mem (h : t.IsProper) {place : Place} {parts : List String} {e : Entry}
    (hmem : (place ++ parts, e) ∈ t.entries) : t.follow place parts = .ok (place ++ parts) := by
  induction parts generalizing place with
  | nil => rw [follow, List.append_nil]
  | cons part parts ih =>
    have hfolder : t.entry? place = some .folder := h.folder_of_mem hmem (List.cons_ne_nil _ _)
    have hpart : part ≠ ".." := by
      rintro rfl
      exact h.named _ hmem (List.mem_append_right _ List.mem_cons_self)
    rw [List.append_cons] at hmem ⊢
    rw [follow, hfolder]
    dsimp only
    rw [if_neg hpart]
    exact ih hmem

/-! ### Writing files -/

theorem IsProper.of_folder (h : t.IsProper) {place : Place} (hplace : t.Holds place .folder) :
    ".." ∉ place ∧ t.Holds place.dropLast .folder := by
  by_cases hnil : place = []
  · rw [hnil]
    exact ⟨List.not_mem_nil, rfl⟩
  · have hmem := mem_of_lookup ((holds_iff_lookup hnil).mp hplace)
    exact ⟨h.named _ hmem, h.held _ hmem⟩

theorem IsProper.put (h : t.IsProper) {place : Place} {entry : Entry} (hne : place ≠ [])
    (hnamed : ".." ∉ place) (hheld : t.Holds place.dropLast .folder)
    (hkeep : t.Holds place .folder → entry = .folder) : (t.put place entry).IsProper := by
  have hgrows := grows_put hne hkeep
  rw [put_eq] at hgrows ⊢
  constructor
  · show ((putEntry t.entries place entry).map (·.1)).Nodup
    rw [keys_putEntry]
    split
    · exact h.nodup
    · next hnew =>
      rw [← List.concat_eq_append]
      exact h.nodup.concat (mt any_key_eq_true_iff.mpr hnew)
  · intro e he
    rcases mem_putEntry he with he | rfl
    · exact h.named e he
    · exact hnamed
  · intro e he
    rcases mem_putEntry he with he | rfl
    · exact hgrows.folders _ (h.held e he)
    · exact hgrows.folders _ hheld
  · exact hgrows.folders _ h.home

theorem IsProper.makeAlong (h : t.IsProper) {place : Place} {parts : List String}
    (hplace : t.Holds place .folder) (hmake : t.makeAlong place parts = .ok u) : u.IsProper := by
  induction parts generalizing t place with
  | nil =>
    cases hmake
    exact h
  | cons part parts ih =>
    obtain ⟨hnamed, habove⟩ := h.of_folder hplace
    rw [FileTree.makeAlong] at hmake
    split at hmake
    · exact ih h habove hmake
    · next hpart =>
      have hne : place ++ [part] ≠ [] := by simp
      split at hmake
      · next hfolder => exact ih h hfolder hmake
      · cases hmake
      · next hnone =>
        -- nothing was there, so that a folder can be put in
        refine ih (h.put hne ?_ ?_ fun _ => rfl) ?_ hmake
        · simpa [Ne.symm hpart] using hnamed
        · rwa [List.dropLast_concat]
        · exact (holds_put hne _ _ _).mpr (by rw [if_pos rfl])

/-- Where a path leads, a file can be put. -/
theorem IsProper.follow (h : t.IsProper) {place place' : Place} {parts : List String}
    (hplace : ".." ∉ place ∧ t.Holds place.dropLast .folder)
    (hfollow : t.follow place parts = .ok place') :
    ".." ∉ place' ∧ t.Holds place'.dropLast .folder := by
  induction parts generalizing place with
  | nil =>
    cases hfollow
    exact hplace
  | cons part parts ih =>
    rw [FileTree.follow] at hfollow
    split at hfollow
    · cases hfollow
    · cases hfollow
    · next hfolder =>
      split at hfollow
      · exact ih (h.of_folder hplace.2) hfollow
      · next hpart =>
        refine ih ⟨?_, ?_⟩ hfollow
        · simpa [Ne.symm hpart] using hplace.1
        · rw [List.dropLast_concat]
          exact hfolder

theorem IsProper.start (h : t.IsProper) (p : Path) : t.Holds (t.start p) .folder := by
  unfold FileTree.start
  split
  · rfl
  · exact h.home

/-- A tree stays proper when a file is written, with the folders that lead to it. -/
theorem IsProper.store (h : t.IsProper) {p : Path} {content : Bytes}
    (hstore : t.store p content = .ok u) : u.IsProper := by
  obtain ⟨made, hmake, hwrite⟩ := store_eq_ok_iff.mp hstore
  obtain ⟨place, hlocate, hfile, rfl⟩ := write_eq_ok_iff.mp hwrite
  have hmade := h.makeAlong (h.start p.parent) hmake
  obtain ⟨hnamed, hheld⟩ := hmade.follow (hmade.of_folder (hmade.start p)) hlocate
  exact hmade.put (ne_nil_of_not_holds hfile) hnamed hheld fun hfolder => absurd hfolder hfile

end FileTree

end PsetCompiler
