import PsetCompiler.Proofs.Files.Proper
import PsetCompiler.Proofs.Text.Order

/-!
# Files taken away

A tree from which files are taken away has all its folders still, so a path that led somewhere leads
there as before.  What is below a folder is what was below it, in the same order, less the files that
are gone.

## Main definitions

* `FileTree.without` — the tree without some places.
* `FileTree.leadsInto` — a path leads to one of some places.

## Main results

* `IsProper.locate_below` — the path of what is below a folder leads to it.
* `locate_without_iff`, `read_without_iff` — where paths lead when files are gone.
* `below_without` — **what is below a folder when files are gone.**
-/

namespace PsetCompiler

/-- Items can be left out before a search or after it. -/
theorem filterMap_filter_of_forall {α β : Type} {l : List α} {f : α → Option β} {keeps : α → Bool}
    {keeps' : β → Bool} (h : ∀ a ∈ l, ∀ b, f a = some b → keeps' b = keeps a) :
    (l.filter keeps).filterMap f = (l.filterMap f).filter keeps' := by
  rw [List.filterMap_filter, List.filter_filterMap]
  refine List.filterMap_congr fun a ha => ?_
  cases hf : f a with
  | none => simp
  | some b => simp [Option.filter, h a ha b hf]

namespace FileTree

open Text (Bytes)

variable {t : FileTree}

/-! ### Below a folder -/

/-- What is inside of a place, with the parts below it. -/
def inside? (place : Place) (e : Place × Entry) : Option (List String × Entry) :=
  if place.isPrefixOf e.1 && place.length < e.1.length then some (e.1.drop place.length, e.2)
  else none

theorem below_eq {p : Path} {place : Place} (h : t.locate p = .ok place) :
    t.below p = Text.sortBy (fun found => String.intercalate "/" found.1)
      (t.entries.filterMap (inside? place)) := by
  rw [below, h]
  rfl

theorem below_eq_nil {p : Path} {e : FileError} (h : t.locate p = .error e) : t.below p = [] := by
  rw [below, h]

theorem inside?_eq_some_iff {place : Place} {e : Place × Entry} {found : List String × Entry} :
    inside? place e = some found ↔ found.1 ≠ [] ∧ e = (place ++ found.1, found.2) := by
  obtain ⟨here, entry⟩ := e
  obtain ⟨parts, entry'⟩ := found
  dsimp only [inside?]
  constructor
  · intro h
    split at h
    · next hinside =>
      rw [Bool.and_eq_true, List.isPrefixOf_iff_prefix, decide_eq_true_eq] at hinside
      obtain ⟨⟨rest, rfl⟩, hlength⟩ := hinside
      rw [List.drop_left] at h
      cases h
      refine ⟨?_, rfl⟩
      rintro rfl
      simp at hlength
    · cases h
  · rintro ⟨hne, heq⟩
    cases heq
    have hlength : place.length < (place ++ parts).length := by
      rw [List.length_append]
      exact Nat.lt_add_of_pos_right (List.length_pos_of_ne_nil hne)
    rw [if_pos, List.drop_left]
    rw [Bool.and_eq_true, List.isPrefixOf_iff_prefix, decide_eq_true_eq]
    exact ⟨List.prefix_append _ _, hlength⟩

theorem mem_below_iff {p : Path} {place : Place} (h : t.locate p = .ok place)
    {found : List String × Entry} :
    found ∈ t.below p ↔ found.1 ≠ [] ∧ (place ++ found.1, found.2) ∈ t.entries := by
  rw [below_eq h, Text.mem_sortBy, List.mem_filterMap]
  constructor
  · rintro ⟨e, he, hinside⟩
    obtain ⟨hne, rfl⟩ := inside?_eq_some_iff.mp hinside
    exact ⟨hne, he⟩
  · rintro ⟨hne, he⟩
    exact ⟨_, he, inside?_eq_some_iff.mpr ⟨hne, rfl⟩⟩

/-- The path of what is below a folder leads to it. -/
theorem IsProper.locate_below (h : t.IsProper) {p : Path} {place : Place}
    (hlocate : t.locate p = .ok place) {found : List String × Entry} (hfound : found ∈ t.below p) :
    t.locate { p with parts := p.parts ++ found.1 } = .ok (place ++ found.1) := by
  show t.follow (t.start p) (p.parts ++ found.1) = _
  rw [follow_append, show t.follow (t.start p) p.parts = .ok place from hlocate]
  exact h.follow_of_mem ((mem_below_iff hlocate).mp hfound).2

/-! ### Without files -/

/-- The tree without some places. -/
def without (tree : FileTree) (gone : Place → Bool) : FileTree :=
  { tree with entries := tree.entries.filter fun e => !gone e.1 }

variable {gone : Place → Bool}

/-- When only files are gone, everything else is where it was. -/
theorem holds_without_iff (hfiles : ∀ place, t.Holds place .folder → gone place = false)
    {place : Place} {e : Entry} :
    (t.without gone).Holds place e ↔ t.Holds place e ∧ gone place = false := by
  by_cases hnil : place = []
  · rw [hnil, holds_nil_iff, holds_nil_iff, hfiles [] rfl]
    simp
  · rw [holds_iff_lookup hnil, holds_iff_lookup hnil, without,
      lookup_filter_keys t.entries (fun place => !gone place) place]
    cases gone place <;> simp

/-- A path leads where it led, since all folders are still there. -/
theorem locate_without_iff (hfiles : ∀ place, t.Holds place .folder → gone place = false) {p : Path}
    {place : Place} : (t.without gone).locate p = .ok place ↔ t.locate p = .ok place := by
  have hback : (t.without gone).Grows t :=
    { working := rfl, folders := fun _ hplace => ((holds_without_iff hfiles).mp hplace).1 }
  have hforth : t.Grows (t.without gone) :=
    { working := rfl
      folders := fun place hplace => (holds_without_iff hfiles).mpr ⟨hplace, hfiles place hplace⟩ }
  exact ⟨locate_of_grows hback, locate_of_grows hforth⟩

/-- What is below a folder when files are gone. -/
theorem below_without (hfiles : ∀ place, t.Holds place .folder → gone place = false) {p : Path}
    {place : Place} (hlocate : t.locate p = .ok place) :
    (t.without gone).below p = (t.below p).filter fun found => !gone (place ++ found.1) := by
  rw [below_eq ((locate_without_iff hfiles).mpr hlocate), below_eq hlocate, Text.filter_sortBy]
  refine congrArg _ (filterMap_filter_of_forall fun e _ found hinside => ?_)
  rw [(inside?_eq_some_iff.mp hinside).2]

theorem below_without_eq_nil (hfiles : ∀ place, t.Holds place .folder → gone place = false)
    {p : Path} {e : FileError} (hlocate : t.locate p = .error e) : (t.without gone).below p = [] := by
  cases h : (t.without gone).locate p with
  | error e' => exact below_eq_nil h
  | ok place => cases hlocate.symm.trans ((locate_without_iff hfiles).mp h)

/-- A path leads to one of some places. -/
def leadsInto (tree : FileTree) (places : Place → Bool) (p : Path) : Bool :=
  match tree.locate p with
  | .ok place => places place
  | .error _ => false

theorem leadsInto_of_locate {p : Path} {place : Place} (h : t.locate p = .ok place) :
    t.leadsInto gone p = gone place := by
  rw [leadsInto, h]

/-- A file that is not gone is read as before. -/
theorem read_without_iff (hfiles : ∀ place, t.Holds place .folder → gone place = false) {p : Path}
    (hkept : t.leadsInto gone p = false) {content : Bytes} :
    (t.without gone).read p = .ok content ↔ t.read p = .ok content := by
  rw [read_eq_ok_iff, read_eq_ok_iff]
  refine exists_congr fun place => ?_
  rw [locate_without_iff hfiles, holds_without_iff hfiles]
  refine and_congr_right fun hlocate => and_iff_left ?_
  rwa [leadsInto_of_locate hlocate] at hkept

end FileTree

end PsetCompiler
