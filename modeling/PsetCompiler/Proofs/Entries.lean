import PsetCompiler.Checked
import Mathlib.Data.List.Nodup

/-!
# Association lists

Tables, forests and file trees all keep their things in a list of entries, each a key with what it
stands for, and find them with `List.lookup`.  Two facts carry the rest: what a lookup says about
membership when no key is there twice, and what putting an entry in does to the keys and to every
lookup.  Where the last of several things counts, the list is searched from its end.

## Main definitions

* `putEntry` — an entry put in: in its place if its key is there, else at the end.

## Main results

* `lookup_eq_some_iff_mem` — a lookup finds exactly the entries, when no key is there twice.
* `lookup_putEntry`, `keys_putEntry` — what `putEntry` does to lookups and to keys.
* `find?_reverse_eq_some_iff`, `findSome?_reverse_eq_some_iff` — the last one is found.
-/

namespace PsetCompiler

/-- What is left of a list without its repetitions repeats nothing. -/
theorem nodup_eraseDups {α : Type} [BEq α] [LawfulBEq α] :
    ∀ l : List α, l.eraseDups.Nodup
  | [] => .nil
  | a :: l => by
    rw [List.eraseDups_cons, List.nodup_cons, List.mem_eraseDups]
    exact ⟨by simp, nodup_eraseDups (l.filter fun b => !b == a)⟩
termination_by l => l.length
decreasing_by exact Nat.lt_succ_of_le (List.length_filter_le _ _)

theorem eraseDups_concat {α : Type} [BEq α] [LawfulBEq α] (l : List α) (a : α) :
    (l ++ [a]).eraseDups = if a ∈ l then l.eraseDups else l.eraseDups ++ [a] := by
  rw [List.eraseDups_append]
  split
  · next h => simp [List.removeAll, h]
  · next h => simp [List.removeAll, h, List.eraseDups_cons]

/-! ### The last one -/

section

variable {α β : Type} {l : List α}

/-- Cutting a list at one of its things, from either end. -/
theorem reverse_eq_append_cons_iff {before after : List α} {a : α} :
    l.reverse = after.reverse ++ a :: before.reverse ↔ l = before ++ a :: after := by
  rw [List.reverse_eq_iff]
  simp

/-- The search from the end finds the last one. -/
theorem find?_reverse_eq_some_iff {p : α → Bool} {a : α} :
    l.reverse.find? p = some a ↔ p a = true ∧
      ∃ before after, l = before ++ a :: after ∧ ∀ b ∈ after, p b = false := by
  rw [List.find?_eq_some_iff_append]
  refine and_congr_right fun _ => ?_
  constructor
  · rintro ⟨behind, front, hlist, hbehind⟩
    refine ⟨front.reverse, behind.reverse, ?_, ?_⟩
    · rw [← reverse_eq_append_cons_iff, List.reverse_reverse, List.reverse_reverse, hlist]
    · intro b hb
      simpa using hbehind b (List.mem_reverse.mp hb)
  · rintro ⟨before, after, hlist, hafter⟩
    refine ⟨after.reverse, before.reverse, reverse_eq_append_cons_iff.mpr hlist, ?_⟩
    intro b hb
    simpa using hafter b (List.mem_reverse.mp hb)

/-- The search from the end finds the last value. -/
theorem findSome?_reverse_eq_some_iff {f : α → Option β} {b : β} :
    l.reverse.findSome? f = some b ↔
      ∃ before a after, l = before ++ a :: after ∧ f a = some b ∧ ∀ x ∈ after, f x = none := by
  rw [List.findSome?_eq_some_iff]
  constructor
  · rintro ⟨behind, a, front, hlist, hfound, hbehind⟩
    refine ⟨front.reverse, a, behind.reverse, ?_, hfound, ?_⟩
    · rw [← reverse_eq_append_cons_iff, List.reverse_reverse, List.reverse_reverse, hlist]
    · intro x hx
      exact hbehind x (List.mem_reverse.mp hx)
  · rintro ⟨before, a, after, hlist, hfound, hafter⟩
    refine ⟨after.reverse, a, before.reverse, reverse_eq_append_cons_iff.mpr hlist, hfound, ?_⟩
    intro x hx
    exact hafter x (List.mem_reverse.mp hx)

end

variable {κ α : Type} [BEq κ] [LawfulBEq κ]

/-! ### Lookups and membership -/

theorem mem_of_lookup {l : List (κ × α)} {k : κ} {a : α} (h : l.lookup k = some a) :
    (k, a) ∈ l := by
  obtain ⟨l₁, l₂, rfl, -⟩ := List.lookup_eq_some_iff.mp h
  simp

theorem mem_keys_of_lookup {l : List (κ × α)} {k : κ} {a : α} (h : l.lookup k = some a) :
    k ∈ l.map (·.1) :=
  List.mem_map.mpr ⟨(k, a), mem_of_lookup h, rfl⟩

theorem lookup_isSome_iff_mem_keys {l : List (κ × α)} {k : κ} :
    (l.lookup k).isSome ↔ k ∈ l.map (·.1) := by
  rw [List.lookup_isSome_iff, List.mem_map]
  constructor
  · rintro ⟨p, hp, hk⟩
    exact ⟨p, hp, (eq_of_beq hk).symm⟩
  · rintro ⟨p, hp, rfl⟩
    exact ⟨p, hp, beq_self_eq_true _⟩

theorem lookup_eq_none_iff_notMem_keys {l : List (κ × α)} {k : κ} :
    l.lookup k = none ↔ k ∉ l.map (·.1) := by
  rw [← lookup_isSome_iff_mem_keys, Option.not_isSome_iff_eq_none]

/-- A lookup finds exactly the entries, when no key is there twice. -/
theorem lookup_eq_some_iff_mem {l : List (κ × α)} (hl : (l.map (·.1)).Nodup) {k : κ} {a : α} :
    l.lookup k = some a ↔ (k, a) ∈ l := by
  refine ⟨mem_of_lookup, fun h => ?_⟩
  induction l with
  | nil => simp at h
  | cons e l ih =>
    obtain ⟨k', a'⟩ := e
    rw [List.map_cons, List.nodup_cons] at hl
    rcases List.mem_cons.mp h with heq | hmem
    · cases heq
      exact List.lookup_cons_self
    · have hne : (k == k') = false := by
        rw [beq_eq_false_iff_ne]
        rintro rfl
        exact hl.1 (List.mem_map.mpr ⟨(k, a), hmem, rfl⟩)
      rw [List.lookup_cons, hne]
      exact ih hl.2 hmem

/-- A lookup does not depend on the order of the entries, when no key is there twice. -/
theorem lookup_eq_of_perm {l m : List (κ × α)} (hl : (l.map (·.1)).Nodup) (h : l.Perm m) (k : κ) :
    m.lookup k = l.lookup k := by
  have hm : (m.map (·.1)).Nodup := (h.map _).nodup_iff.mp hl
  ext a
  rw [lookup_eq_some_iff_mem hm, lookup_eq_some_iff_mem hl, h.mem_iff]

omit [BEq κ] [LawfulBEq κ] in
theorem notMem_keys_of_nodup_append {l m : List (κ × α)} {e : κ × α}
    (h : ((l ++ e :: m).map (·.1)).Nodup) : e.1 ∉ l.map (·.1) := by
  rw [List.map_append, List.map_cons, List.nodup_middle] at h
  exact mt (List.mem_append_left _) h.notMem

omit [BEq κ] [LawfulBEq κ] in
theorem nodup_keys_concat {l : List (κ × α)} {e : κ × α} (he : e.1 ∉ l.map (·.1))
    (hl : (l.map (·.1)).Nodup) : ((l ++ [e]).map (·.1)).Nodup := by
  rw [List.map_append, List.map_singleton, ← List.concat_eq_append]
  exact .concat he hl

theorem lookup_filter_keys (l : List (κ × α)) (keeps : κ → Bool) (k : κ) :
    (l.filter fun e => keeps e.1).lookup k = if keeps k then l.lookup k else none := by
  induction l with
  | nil => simp
  | cons e l ih =>
    obtain ⟨j, a⟩ := e
    cases hj : keeps j with
    | true =>
      rw [List.filter_cons_of_pos (by simp [hj]), List.lookup_cons, List.lookup_cons, ih]
      cases hkj : k == j with
      | false => rfl
      | true => rw [eq_of_beq hkj, hj]; rfl
    | false =>
      rw [List.filter_cons_of_neg (by simp [hj]), ih, List.lookup_cons]
      cases hkj : k == j with
      | false => rfl
      | true => rw [eq_of_beq hkj, hj]; rfl

theorem lookup_filter_ne (l : List (κ × α)) (k k' : κ) :
    (l.filter (·.1 != k)).lookup k' = if k' == k then none else l.lookup k' := by
  rw [lookup_filter_keys l (· != k) k', bne]
  cases k' == k <;> rfl

/-! ### Putting an entry in -/

/-- The list with an entry: in its place if its key is there, else at the end. -/
def putEntry (l : List (κ × α)) (k : κ) (a : α) : List (κ × α) :=
  if l.any (·.1 == k) then l.map fun e => if e.1 == k then (k, a) else e else l ++ [(k, a)]

theorem any_key_eq_true_iff {l : List (κ × α)} {k : κ} :
    l.any (·.1 == k) = true ↔ k ∈ l.map (·.1) := by
  simp only [List.any_eq_true, beq_iff_eq, List.mem_map]

/-- The value of one key changed is found changed, and nothing else changes. -/
theorem lookup_map_modify (l : List (κ × α)) (k k' : κ) (f : α → α) :
    (l.map fun e => if e.1 == k then (k, f e.2) else e).lookup k' =
      if k' == k then (l.lookup k).map f else l.lookup k' := by
  induction l with
  | nil => simp
  | cons e l ih =>
    obtain ⟨j, b⟩ := e
    rw [List.map_cons]
    cases hjk : j == k with
    | true =>
      have hjk' : j = k := eq_of_beq hjk
      subst hjk'
      simp only [if_true, List.lookup_cons, ih, beq_self_eq_true]
      cases k' == j <;> rfl
    | false =>
      have hkj : (k == j) = false := by
        rw [beq_eq_false_iff_ne] at hjk ⊢
        exact fun h => hjk h.symm
      simp only [Bool.false_eq_true, if_false, List.lookup_cons, ih, hkj]
      cases hk'j : k' == j with
      | false => rfl
      | true =>
        have : (k' == k) = false := by rwa [eq_of_beq hk'j]
        simp [this]

/-- An entry put in is found under its key, and nothing else changes. -/
theorem lookup_putEntry (l : List (κ × α)) (k k' : κ) (a : α) :
    (putEntry l k a).lookup k' = if k' == k then some a else l.lookup k' := by
  unfold putEntry
  split
  · next h =>
    rw [lookup_map_modify l k k' fun _ => a]
    obtain ⟨b, hb⟩ := Option.isSome_iff_exists.mp
      (lookup_isSome_iff_mem_keys.mpr (any_key_eq_true_iff.mp h))
    rw [hb, Option.map_some]
  · next h =>
    have hnone : l.lookup k = none :=
      lookup_eq_none_iff_notMem_keys.mpr (mt any_key_eq_true_iff.mpr h)
    rw [List.lookup_append, List.lookup_cons, List.lookup_nil]
    cases hk : k' == k with
    | true =>
      rw [eq_of_beq hk, hnone]
      rfl
    | false => simp

/-- The keys keep their order; a new one comes last. -/
theorem keys_putEntry (l : List (κ × α)) (k : κ) (a : α) :
    (putEntry l k a).map (·.1) =
      if l.any (·.1 == k) then l.map (·.1) else l.map (·.1) ++ [k] := by
  unfold putEntry
  split
  · rw [List.map_map]
    refine List.map_congr_left fun e _ => ?_
    simp only [Function.comp_apply]
    split
    · next h => exact (eq_of_beq h).symm
    · rfl
  · rw [List.map_append, List.map_singleton]

omit [LawfulBEq κ] in
theorem mem_putEntry {l : List (κ × α)} {k : κ} {a : α} {e : κ × α} (h : e ∈ putEntry l k a) :
    e ∈ l ∨ e = (k, a) := by
  unfold putEntry at h
  split at h
  · obtain ⟨e', he', rfl⟩ := List.mem_map.mp h
    split
    · exact .inr rfl
    · exact .inl he'
  · rwa [List.mem_append, List.mem_singleton] at h

theorem putEntry_cons_self {l : List (κ × α)} {k : κ} (hk : k ∉ l.map (·.1)) (a b : α) :
    putEntry ((k, b) :: l) k a = (k, a) :: l := by
  have hany : ((k, b) :: l).any (·.1 == k) = true := any_key_eq_true_iff.mpr List.mem_cons_self
  have hrest : (l.map fun e => if e.1 == k then (k, a) else e) = l := by
    refine (List.map_congr_left fun e he => ?_).trans (List.map_id l)
    have hne : (e.1 == k) = false :=
      beq_eq_false_iff_ne.mpr fun heq => hk (heq ▸ List.mem_map_of_mem he)
    rw [hne]
    rfl
  rw [putEntry, if_pos hany, List.map_cons, hrest, if_pos (beq_self_eq_true k)]

theorem putEntry_cons_of_ne {j k : κ} (hjk : j ≠ k) (l : List (κ × α)) (a b : α) :
    putEntry ((j, b) :: l) k a = (j, b) :: putEntry l k a := by
  have hne : (j == k) = false := beq_eq_false_iff_ne.mpr hjk
  rw [putEntry, putEntry, List.any_cons, hne, Bool.false_or, List.map_cons, hne]
  split <;> rfl

theorem nodup_keys_putEntry {l : List (κ × α)} (hl : (l.map (·.1)).Nodup) (k : κ) (a : α) :
    ((putEntry l k a).map (·.1)).Nodup := by
  by_cases h : l.any (·.1 == k) = true
  · rwa [keys_putEntry, if_pos h]
  · rw [putEntry, if_neg h]
    exact nodup_keys_concat (mt any_key_eq_true_iff.mpr h) hl

end PsetCompiler
