import PsetCompiler.Proofs.Text.Blank
import PsetCompiler.Text.Split
import Mathlib.Data.List.Infix

/-!
# Cutting and replacing

What is replaced in a text is told from what is sought: a text that lacks a character of it stays as
it is, and a character that is none of it stays where it is.  A cut gives parts without separators,
the first of which ends at the first separator; white space that stands around a text is around its
outer parts, and is lost when these are trimmed.

## Main results

* `replaceFrom_eq_self`, `replaceFrom_concat`, `replaceFrom_singleton` — what a replacement leaves.
* `splitBy_eq_singleton`, `splitBy_append_cons`, `mem_of_mem_splitBy` — the parts of a text.
* `map_trimBy_splitBy_around` — the trimmed parts of a text with white space around it.
-/

namespace PsetCompiler.Text

variable {p : Char → Bool} {cs : List Char}

/-! ### Replacing -/

/-- Nothing is replaced in a text that lacks some character of what is sought. -/
theorem replaceFrom_eq_self {c : Char} {old new : List Char} (hold : c ∈ old) {cs : List Char}
    (h : c ∉ cs) : replaceFrom old new 0 cs = cs := by
  induction cs with
  | nil => rfl
  | cons d cs ih =>
    have hnot : ¬ old.isPrefixOf (d :: cs) = true := fun hbegins =>
      h ((List.isPrefixOf_iff_prefix.mp hbegins).subset hold)
    rw [replaceFrom, if_neg hnot, ih (List.not_mem_of_not_mem_cons h)]

theorem replaceFrom_skip (old new skipped cs : List Char) :
    replaceFrom old new skipped.length (skipped ++ cs) = replaceFrom old new 0 cs := by
  induction skipped with
  | nil => rfl
  | cons c skipped ih => rw [List.cons_append, List.length_cons, replaceFrom, ih]

/-- What is sought is replaced where a text begins with it. -/
theorem replaceFrom_append {old : List Char} (hold : old ≠ []) (new cs : List Char) :
    replaceFrom old new 0 (old ++ cs) = new ++ replaceFrom old new 0 cs := by
  cases old with
  | nil => exact absurd rfl hold
  | cons c rest =>
    have hbegins : (c :: rest).isPrefixOf (c :: (rest ++ cs)) = true :=
      List.isPrefixOf_iff_prefix.mpr (List.prefix_append (c :: rest) cs)
    rw [List.cons_append, replaceFrom, if_pos hbegins]
    exact congrArg (new ++ ·) (replaceFrom_skip (c :: rest) new rest cs)

/-- A last character that is not sought stays. -/
theorem replaceFrom_concat {c : Char} {old new : List Char} (hold : old ≠ []) (hc : c ∉ old)
    {skip : Nat} {cs : List Char} (hskip : skip ≤ cs.length) :
    replaceFrom old new skip (cs ++ [c]) = replaceFrom old new skip cs ++ [c] := by
  have hbegins (l : List Char) : old <+: l ++ [c] ↔ old <+: l := by
    rw [List.prefix_concat_iff]
    refine or_iff_right fun heq => hc ?_
    rw [heq]
    simp
  induction cs generalizing skip with
  | nil =>
    obtain rfl : skip = 0 := Nat.le_zero.mp hskip
    have hnot : ¬ old.isPrefixOf [c] = true := by
      rw [List.isPrefixOf_iff_prefix]
      intro h
      exact hold (List.prefix_nil.mp ((hbegins []).mp h))
    simp [replaceFrom, hnot]
  | cons d cs ih =>
    rw [List.cons_append]
    cases skip with
    | succ skip => exact ih (Nat.le_of_succ_le_succ hskip)
    | zero =>
      rw [replaceFrom, replaceFrom, ← List.cons_append]
      simp only [List.isPrefixOf_iff_prefix, hbegins]
      split
      · next h =>
        have hlen := h.length_le
        rw [List.length_cons] at hlen
        rw [ih (by omega), List.append_assoc]
      · rw [ih (Nat.zero_le _)]
        rfl

/-- Replacing one character goes through a text character by character. -/
theorem replaceFrom_singleton (c : Char) (new cs : List Char) :
    replaceFrom [c] new 0 cs = cs.flatMap fun d => if d = c then new else [d] := by
  induction cs with
  | nil => rfl
  | cons d cs ih =>
    rw [replaceFrom, List.flatMap_cons]
    by_cases hd : d = c
    · have hbegins : [c].isPrefixOf (d :: cs) = true := by simp [hd]
      rw [if_pos hbegins, if_pos hd]
      exact congrArg (new ++ ·) ih
    · have hbegins : ¬ [c].isPrefixOf (d :: cs) = true := by
        simpa using fun h : c = d => hd h.symm
      rw [if_neg hbegins, if_neg hd, ih]
      rfl

theorem replaceAll_eq_self {c : Char} {old s : String} (hold : c ∈ old.toList) (h : c ∉ s.toList)
    (new : String) : replaceAll old new s = s := by
  rw [replaceAll, replaceFrom_eq_self hold h, String.ofList_toList]

theorem replaceAll_append {old : String} (hold : old ≠ "") (new s : String) :
    replaceAll old new (old ++ s) = new ++ replaceAll old new s := by
  refine String.toList_injective ?_
  have hne : old.toList ≠ [] := fun hnil => hold (String.toList_eq_nil_iff.mp hnil)
  rw [replaceAll, String.toList_append, replaceFrom_append hne, String.toList_ofList,
    String.toList_append, replaceAll, String.toList_ofList]

/-! ### Cutting -/

/-- A text without separators is one part. -/
theorem splitBy_eq_singleton (h : ∀ c ∈ cs, p c = false) : splitBy p cs = [cs] := by
  induction cs with
  | nil => rfl
  | cons c cs ih =>
    rw [List.forall_mem_cons] at h
    rw [splitBy, h.1, ih h.2]
    rfl

/-- The first part ends at the first separator. -/
theorem splitBy_append_cons (h : ∀ c ∈ cs, p c = false) {c : Char} (hc : p c = true)
    (rest : List Char) : splitBy p (cs ++ c :: rest) = cs :: splitBy p rest := by
  induction cs with
  | nil => rw [List.nil_append, splitBy, if_pos hc]
  | cons d cs ih =>
    rw [List.forall_mem_cons] at h
    rw [List.cons_append, splitBy, h.1, ih h.2]
    rfl

theorem splitBy_eq_splitOn (a : Char) (cs : List Char) :
    splitBy (· = a) cs = cs.splitOn a := by
  induction cs with
  | nil => rfl
  | cons c cs ih =>
    rw [splitBy, List.splitOn_cons_eq_if_modifyHead, ih]
    simp only [decide_eq_true_eq, beq_iff_eq]
    split
    · rfl
    · split
      · next h => exact absurd h (List.splitOn_ne_nil a cs)
      · next h => rw [h, List.modifyHead_cons]

theorem mem_of_mem_splitBy {p : Char → Bool} {cs part : List Char} (h : part ∈ splitBy p cs)
    {c : Char} (hc : c ∈ part) : c ∈ cs ∧ p c = false := by
  induction cs generalizing part with
  | nil =>
    rw [splitBy, List.mem_singleton] at h
    rw [h] at hc
    cases hc
  | cons d cs ih =>
    have hcons {part : List Char} (h : part ∈ splitBy p cs) (hc : c ∈ part) :
        c ∈ d :: cs ∧ p c = false := (ih h hc).imp_left (List.mem_cons_of_mem d)
    rw [splitBy] at h
    split at h
    · rcases List.mem_cons.mp h with rfl | h
      · cases hc
      · exact hcons h hc
    · next hd =>
      have hhead : d ∈ d :: cs ∧ p d = false := ⟨List.mem_cons_self, Bool.eq_false_iff.mpr hd⟩
      split at h
      · rw [List.mem_singleton.mp h, List.mem_singleton] at hc
        rwa [hc]
      · next first parts hparts =>
        rw [hparts] at hcons
        rcases List.mem_cons.mp h with rfl | h
        · rcases List.mem_cons.mp hc with rfl | hc
          · exact hhead
          · exact hcons List.mem_cons_self hc
        · exact hcons (List.mem_cons_of_mem _ h) hc

/-- The first part is where the text starts. -/
theorem head?_of_splitBy {p : Char → Bool} {cs first : List Char} {parts : List (List Char)}
    (h : splitBy p cs = first :: parts) (hne : first ≠ []) : first.head? = cs.head? := by
  cases cs with
  | nil =>
    rw [splitBy, List.cons.injEq] at h
    exact absurd h.1.symm hne
  | cons c cs =>
    rw [splitBy] at h
    split at h
    · rw [List.cons.injEq] at h
      exact absurd h.1.symm hne
    · split at h <;> rw [List.cons.injEq] at h <;> rw [← h.1] <;> rfl

/-- A last character that is no separator is the last one of the last part. -/
theorem exists_splitBy_concat (cs : List Char) :
    ∃ parts last, splitBy p cs = parts ++ [last] ∧
      ∀ c, p c = false → splitBy p (cs ++ [c]) = parts ++ [last ++ [c]] := by
  induction cs with
  | nil => exact ⟨[], [], rfl, fun c hc => by rw [List.nil_append, splitBy, hc]; rfl⟩
  | cons d cs ih =>
    obtain ⟨parts, last, hparts, hconcat⟩ := ih
    cases hd : p d with
    | true =>
      refine ⟨[] :: parts, last, ?_, fun c hc => ?_⟩
      · rw [splitBy, if_pos hd, hparts]; rfl
      · rw [List.cons_append, splitBy, if_pos hd, hconcat c hc]; rfl
    | false =>
      cases parts with
      | nil =>
        refine ⟨[], d :: last, ?_, fun c hc => ?_⟩
        · rw [splitBy, hd, hparts]; rfl
        · rw [List.cons_append, splitBy, hd, hconcat c hc]; rfl
      | cons first parts =>
        refine ⟨(d :: first) :: parts, last, ?_, fun c hc => ?_⟩
        · rw [splitBy, hd, hparts]; rfl
        · rw [List.cons_append, splitBy, hd, hconcat c hc]; rfl

/-- Where no separator is trimmed, what is trimmed around a text does not matter for its trimmed
parts. -/
theorem map_trimBy_splitBy_around {sep : Char → Bool} (h : ∀ c, p c = true → sep c = false)
    {before after : List Char} (hbefore : ∀ c ∈ before, p c = true)
    (hafter : ∀ c ∈ after, p c = true) (cs : List Char) :
    (splitBy sep (before ++ cs ++ after)).map (trimBy p) = (splitBy sep cs).map (trimBy p) := by
  have hfront (cs : List Char) :
      (splitBy sep (before ++ cs)).map (trimBy p) = (splitBy sep cs).map (trimBy p) := by
    induction before with
    | nil => rfl
    | cons c before ih =>
      rw [List.forall_mem_cons] at hbefore
      obtain ⟨parts, last, hparts, -⟩ := exists_splitBy_concat (p := sep) (before ++ cs)
      have hcons (part : List Char) : trimBy p (c :: part) = trimBy p part :=
        congrArg (trimEndBy p) (List.dropWhile_cons_of_pos hbefore.1)
      rw [← ih hbefore.2, List.cons_append, splitBy, h c hbefore.1, hparts]
      cases parts <;> simp [hcons]
  have hback (cs : List Char) :
      (splitBy sep (cs ++ after)).map (trimBy p) = (splitBy sep cs).map (trimBy p) := by
    induction after generalizing cs with
    | nil => rw [List.append_nil]
    | cons c after ih =>
      rw [List.forall_mem_cons] at hafter
      obtain ⟨parts, last, hparts, hconcat⟩ := exists_splitBy_concat (p := sep) cs
      have hlast : trimBy p ([] ++ last ++ [c]) = trimBy p last :=
        trimBy_around (List.forall_mem_nil _) (List.forall_mem_singleton.mpr hafter.1) last
      rw [List.append_cons, ih hafter.2, hparts, hconcat c (h c hafter.1), List.map_append,
        List.map_append, List.map_singleton, List.map_singleton, ← hlast, List.nil_append]
  rw [hback, hfront]

/-! ### The parts of texts -/

theorem exists_append_of_startsWith {start s : String} (h : startsWith start s = true) :
    ∃ rest, s = start ++ rest := by
  obtain ⟨rest, hrest⟩ := List.isPrefixOf_iff_prefix.mp h
  refine ⟨String.ofList rest, String.toList_injective ?_⟩
  rw [String.toList_append, String.toList_ofList, hrest]

theorem split_eq_singleton {s : String} (h : ∀ c ∈ s.toList, p c = false) : split p s = [s] := by
  rw [split, splitBy_eq_singleton h, List.map_singleton, String.ofList_toList]

theorem split_append_cons {s : String} (h : ∀ c ∈ s.toList, p c = false) {mark : String} {c : Char}
    (hmark : mark.toList = [c]) (hc : p c = true) (rest : String) :
    split p (s ++ mark ++ rest) = s :: split p rest := by
  rw [split, String.toList_append, String.toList_append, hmark, List.append_assoc,
    List.singleton_append, splitBy_append_cons h hc, List.map_cons, String.ofList_toList, split]

theorem map_strip_split (p : Char → Bool) (s : String) :
    (split p s).map strip = ((splitBy p s.toList).map (trimBy isBlank)).map String.ofList := by
  rw [split, List.map_map, List.map_map]
  exact List.map_congr_left fun part _ => congrArg (fun cs => String.ofList (trimBy isBlank cs))
    String.toList_ofList

theorem map_strip_split_around (h : ∀ c, isBlank c = true → p c = false) {before after : String}
    (hbefore : isBlankText before = true) (hafter : isBlankText after = true) (s : String) :
    (split p (before ++ s ++ after)).map strip = (split p s).map strip := by
  rw [map_strip_split, String.toList_append, String.toList_append, map_trimBy_splitBy_around h
    (List.all_eq_true.mp hbefore) (List.all_eq_true.mp hafter), map_strip_split]

theorem map_strip_split_strip (h : ∀ c, isBlank c = true → p c = false) (s : String) :
    (split p (strip s)).map strip = (split p s).map strip := by
  obtain ⟨before, after, hbefore, hafter, hs⟩ := exists_around_strip s
  conv_rhs => rw [hs, map_strip_split_around h hbefore hafter]

end PsetCompiler.Text
