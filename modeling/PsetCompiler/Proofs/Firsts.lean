import Mathlib.Data.List.Infix
import Mathlib.Data.List.Nodup

/-!
# The first of every key

Things that are told apart by a key are often taken one after the other, and a thing is passed over
if its key was met before.  What is kept is the first of every key.

The same list is met from two sides.  A loop that takes the things from the front and remembers the
keys of those it kept is followed by the lemmas about the head of the list: of the rest it keeps
those that are first of their keys and whose keys are not taken.  A loop whose state is told by the
things before is followed by `firstOfEach_concat`.

## Main definitions

* `firstOfEach` — the things that are the first of their keys.
* `firstsBeyond` — those whose keys are not taken before.
* `repeatsBeyond` — the things that are passed over.

## Main results

* `firstOfEach_concat` — one more thing at the end.
* `firstsBeyond_cons_of_mem`, `firstsBeyond_cons_of_notMem` — one more thing at the front.
* `repeatsBeyond_cons_of_mem`, `repeatsBeyond_cons_of_notMem` — the same of what is passed over.
* `nodup_map_firstOfEach`, `firstOfEach_sublist` — what is kept has different keys, and its order.
-/

namespace PsetCompiler

variable {α κ : Type} [DecidableEq κ] (key : α → κ)

/-- The things that are the first of their keys, in order. -/
def firstOfEach : List α → List α
  | [] => []
  | a :: rest => a :: (firstOfEach rest).filter (key · ≠ key a)

/-- The things that are the first of their keys, but for those whose keys are taken before. -/
def firstsBeyond (taken : List κ) (l : List α) : List α :=
  (firstOfEach key l).filter (key · ∉ taken)

/-- The things whose keys are taken before, or are those of things before them. -/
def repeatsBeyond (taken : List κ) (l : List α) : List α :=
  ((l.zip l.inits).filter fun a => key a.1 ∈ taken ++ a.2.map key).map (·.1)

theorem firstOfEach_sublist (l : List α) : (firstOfEach key l).Sublist l := by
  induction l with
  | nil => exact .refl _
  | cons a rest ih => exact (List.filter_sublist.trans ih).cons_cons a

theorem nodup_map_firstOfEach (l : List α) : ((firstOfEach key l).map key).Nodup := by
  induction l with
  | nil => exact .nil
  | cons a rest ih =>
    rw [firstOfEach, List.map_cons, List.nodup_cons]
    refine ⟨?_, ih.sublist (List.filter_sublist.map _)⟩
    intro hmem
    obtain ⟨b, hb, hkey⟩ := List.mem_map.mp hmem
    simpa [hkey] using (List.mem_filter.mp hb).2

/-- Where things are made of others and have their keys, the first ones are made of the first. -/
theorem map_firstOfEach {β : Type} (f : β → α) (l : List β) :
    (firstOfEach (fun b => key (f b)) l).map f = firstOfEach key (l.map f) := by
  induction l with
  | nil => rfl
  | cons b rest ih =>
    rw [firstOfEach, List.map_cons, List.map_cons, firstOfEach, ← ih, List.filter_map]
    rfl

/-- One more thing at the end is kept if its key was not met before. -/
theorem firstOfEach_concat (l : List α) (a : α) :
    firstOfEach key (l ++ [a]) =
      if key a ∈ l.map key then firstOfEach key l else firstOfEach key l ++ [a] := by
  induction l with
  | nil => simp [firstOfEach]
  | cons b rest ih =>
    rw [List.cons_append, firstOfEach, ih, firstOfEach, List.map_cons]
    by_cases hrest : key a ∈ rest.map key
    · rw [if_pos hrest, if_pos (List.mem_cons_of_mem _ hrest)]
    · rw [if_neg hrest, List.filter_append]
      by_cases hhead : key a = key b
      · simp [hhead]
      · have hnew : key a ∉ key b :: rest.map key := by
          rw [List.mem_cons, not_or]
          exact ⟨hhead, hrest⟩
        rw [if_neg hnew, List.filter_cons_of_pos (by simpa using hhead)]
        rfl

variable {key}

@[simp] theorem firstsBeyond_nil (l : List α) : firstsBeyond key [] l = firstOfEach key l := by
  simp [firstsBeyond]

theorem nodup_map_firstsBeyond (taken : List κ) (l : List α) :
    ((firstsBeyond key taken l).map key).Nodup :=
  (nodup_map_firstOfEach key l).sublist (List.filter_sublist.map key)

theorem notMem_of_mem_firstsBeyond {taken : List κ} {l : List α} {a : α}
    (h : a ∈ firstsBeyond key taken l) : key a ∉ taken :=
  of_decide_eq_true (List.mem_filter.mp h).2

/-- A thing whose key is taken is passed over, and nothing is lost with it. -/
theorem firstsBeyond_cons_of_mem {taken : List κ} {a : α} (h : key a ∈ taken) (l : List α) :
    firstsBeyond key taken (a :: l) = firstsBeyond key taken l := by
  rw [firstsBeyond, firstOfEach, List.filter_cons_of_neg (by simpa using h), List.filter_filter]
  refine List.filter_congr fun b _ => ?_
  -- what has the key of the thing that is passed over has a key that is taken
  by_cases hb : key b = key a
  · simp [hb, h]
  · simp [hb]

/-- A thing whose key is not taken is kept, and its key is taken from then on. -/
theorem firstsBeyond_cons_of_notMem {taken : List κ} {a : α} (h : key a ∉ taken) (l : List α) :
    firstsBeyond key taken (a :: l) = a :: firstsBeyond key (taken ++ [key a]) l := by
  rw [firstsBeyond, firstOfEach, List.filter_cons_of_pos (by simpa using h), List.filter_filter]
  refine congrArg (a :: ·) (List.filter_congr fun b _ => ?_)
  simp [not_or]

/-- What is passed over is told by the keys that are taken, however they are listed. -/
theorem repeatsBeyond_congr {taken taken' : List κ} (h : ∀ k, k ∈ taken ↔ k ∈ taken') (l : List α) :
    repeatsBeyond key taken l = repeatsBeyond key taken' l := by
  unfold repeatsBeyond
  refine congrArg (List.map Prod.fst) (List.filter_congr fun a _ => ?_)
  simp only [List.mem_append, h]

theorem repeatsBeyond_cons (taken : List κ) (a : α) (l : List α) :
    repeatsBeyond key taken (a :: l) =
      (if key a ∈ taken then [a] else []) ++ repeatsBeyond key (taken ++ [key a]) l := by
  have hrest : ((l.zip (l.inits.map (a :: ·))).filter
      fun b => key b.1 ∈ taken ++ b.2.map key).map (·.1) =
        repeatsBeyond key (taken ++ [key a]) l := by
    rw [List.zip_map_right, List.filter_map, List.map_map, repeatsBeyond]
    refine congrArg (List.map Prod.fst) (List.filter_congr fun b _ => ?_)
    show decide (key b.1 ∈ taken ++ (a :: b.2).map key) = _
    rw [List.map_cons, List.append_cons]
  rw [← hrest, repeatsBeyond, List.inits_cons, List.zip_cons_cons, List.filter_cons]
  by_cases h : key a ∈ taken <;> simp [h]

/-- A thing whose key is taken is passed over. -/
theorem repeatsBeyond_cons_of_mem {taken : List κ} {a : α} (h : key a ∈ taken) (l : List α) :
    repeatsBeyond key taken (a :: l) = a :: repeatsBeyond key taken l := by
  have hsame (k : κ) : k ∈ taken ++ [key a] ↔ k ∈ taken := by
    rw [List.mem_append, List.mem_singleton, or_iff_left_of_imp]
    rintro rfl
    exact h
  rw [repeatsBeyond_cons, if_pos h, repeatsBeyond_congr hsame]
  rfl

/-- A thing whose key is not taken is not passed over, and its key is taken from then on. -/
theorem repeatsBeyond_cons_of_notMem {taken : List κ} {a : α} (h : key a ∉ taken) (l : List α) :
    repeatsBeyond key taken (a :: l) = repeatsBeyond key (taken ++ [key a]) l := by
  rw [repeatsBeyond_cons, if_neg h, List.nil_append]

end PsetCompiler
