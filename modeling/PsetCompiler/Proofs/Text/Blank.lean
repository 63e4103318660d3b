import PsetCompiler.Text.Blank
import Mathlib.Data.List.DropRight
import Mathlib.Data.List.TakeWhile

/-!
# Trimming

A text without characters of a class loses nothing when these are trimmed from it.  What is left of
a text after trimming begins and ends with other characters, if anything is left, and a text that
does so loses nothing.
-/

namespace PsetCompiler.Text

variable {p : Char → Bool} {cs : List Char}

theorem trimEndBy_eq_self (h : ∀ c ∈ cs, p c = false) : trimEndBy p cs = cs := by
  rw [trimEndBy, List.reverse_eq_iff, List.dropWhile_eq_self_iff]
  intro hlen
  rw [h _ (List.mem_reverse.mp (List.getElem_mem hlen))]
  decide

/-- A text that ends in another character keeps its end. -/
theorem trimEndBy_concat {c : Char} (h : p c = false) (cs : List Char) :
    trimEndBy p (cs ++ [c]) = cs ++ [c] :=
  List.rdropWhile_concat_neg p cs c (by simp [h])

theorem trimBy_eq_self (h : ∀ c ∈ cs, p c = false) : trimBy p cs = cs := by
  have hfront : cs.dropWhile p = cs := by
    rw [List.dropWhile_eq_self_iff]
    intro hlen
    rw [h _ (List.getElem_mem hlen)]
    decide
  rw [trimBy, hfront, trimEndBy_eq_self h]

/-- Characters of the class at the end do not matter. -/
theorem trimEndBy_append_of_forall {after : List Char} (h : ∀ c ∈ after, p c = true)
    (cs : List Char) : trimEndBy p (cs ++ after) = trimEndBy p cs := by
  rw [trimEndBy, List.reverse_append, List.dropWhile_append_of_pos, trimEndBy]
  intro c hc
  exact h c (List.mem_reverse.mp hc)

/-- Characters of the class around a text do not matter. -/
theorem trimBy_around {before after : List Char} (hbefore : ∀ c ∈ before, p c = true)
    (hafter : ∀ c ∈ after, p c = true) (cs : List Char) :
    trimBy p (before ++ cs ++ after) = trimBy p cs := by
  rw [trimBy, List.append_assoc, List.dropWhile_append_of_pos hbefore, List.dropWhile_append]
  split
  · next hnil =>
    -- nothing but such characters is there at all
    rw [List.isEmpty_iff] at hnil
    have hall : after.dropWhile p = [] := List.dropWhile_eq_nil_iff.mpr hafter
    rw [hall, trimBy, hnil]
  · rw [trimEndBy_append_of_forall hafter, trimBy]

/-- A text is what is left of it between characters of the class. -/
theorem exists_around_trimBy (p : Char → Bool) (cs : List Char) :
    ∃ before after, (∀ c ∈ before, p c = true) ∧ (∀ c ∈ after, p c = true) ∧
      cs = before ++ trimBy p cs ++ after := by
  refine ⟨cs.takeWhile p, ((cs.dropWhile p).reverse.takeWhile p).reverse,
    fun c hc => List.mem_takeWhile_imp hc, fun c hc => ?_, ?_⟩
  · exact List.mem_takeWhile_imp (List.mem_reverse.mp hc)
  · rw [List.append_assoc, trimBy, trimEndBy, ← List.reverse_append, List.takeWhile_append_dropWhile,
      List.reverse_reverse, List.takeWhile_append_dropWhile]

/-- Nothing is trimmed from a text exactly if it begins and ends with other characters. -/
theorem trimBy_eq_self_iff :
    trimBy p cs = cs ↔ (∀ c ∈ cs.head?, p c = false) ∧ ∀ c ∈ cs.getLast?, p c = false := by
  have hfront : cs.dropWhile p = cs ↔ ∀ c ∈ cs.head?, p c = false := by
    cases cs with
    | nil => simp
    | cons c cs => simp [List.dropWhile_eq_self_iff]
  have hback : trimEndBy p cs = cs ↔ ∀ c ∈ cs.getLast?, p c = false := by
    refine List.rdropWhile_eq_self_iff.trans ⟨fun h c hc => ?_, fun h hne => ?_⟩
    · obtain ⟨hne, rfl⟩ := List.mem_getLast?_eq_getLast hc
      exact Bool.eq_false_iff.mpr (h hne)
    · exact Bool.eq_false_iff.mp (h _ (List.getLast?_eq_some_getLast hne))
  rw [← hfront, ← hback]
  constructor
  · intro h
    -- what is trimmed begins no later than what has lost its front
    have hprefix : trimBy p cs <+: cs.dropWhile p := List.rdropWhile_prefix p _
    rw [h] at hprefix
    have hdrop : cs.dropWhile p = cs := (List.dropWhile_suffix p).eq_of_length_le hprefix.length_le
    rw [trimBy, hdrop] at h
    exact ⟨hdrop, h⟩
  · rintro ⟨hdrop, hend⟩
    rw [trimBy, hdrop, hend]

theorem strip_eq_self {s : String} (h : ∀ c ∈ s.toList, isBlank c = false) : strip s = s := by
  rw [strip, trimBy_eq_self h, String.ofList_toList]

/-- Trimming leaves nothing to trim. -/
theorem trimBy_trimBy (p : Char → Bool) (cs : List Char) :
    trimBy p (trimBy p cs) = trimBy p cs := by
  -- what is left at the front is where a text begins that has lost its front already
  have hfront : (trimBy p cs).dropWhile p = trimBy p cs := by
    rw [List.dropWhile_eq_self_iff]
    intro hlen
    have hbegins : trimBy p cs <+: cs.dropWhile p := List.rdropWhile_prefix p _
    have hne := Nat.lt_of_lt_of_le hlen hbegins.length_le
    rw [hbegins.getElem hlen]
    exact List.dropWhile_get_zero_not p cs hne
  have hback : trimEndBy p (trimBy p cs) = trimBy p cs := List.rdropWhile_idempotent p _
  rw [trimBy, hfront, hback]

theorem strip_strip (s : String) : strip (strip s) = strip s := by
  have htrim := trimBy_trimBy isBlank s.toList
  rw [strip, toList_strip, htrim, strip]

theorem strip_eq_self_iff {s : String} : strip s = s ↔
    (∀ c ∈ s.toList.head?, isBlank c = false) ∧ ∀ c ∈ s.toList.getLast?, isBlank c = false := by
  rw [← trimBy_eq_self_iff, ← toList_strip, String.toList_inj]

/-- Between a text that begins with no white space and one that ends with none, nothing is
trimmed. -/
theorem strip_append_strip {start : String} {c : Char} (hstart : start.toList.head? = some c)
    (hc : isBlank c = false) {s : String} (hne : strip s ≠ "") (middle : String) :
    strip (start ++ middle ++ strip s) = start ++ middle ++ strip s := by
  obtain ⟨-, hlast⟩ := strip_eq_self_iff.mp (strip_strip s)
  refine strip_eq_self_iff.mpr ⟨fun d hd => ?_, fun d hd => ?_⟩
  · rw [String.toList_append, String.toList_append, List.append_assoc, List.head?_append, hstart,
      Option.some_or, Option.mem_some_iff] at hd
    rwa [← hd]
  · refine hlast d ?_
    rw [String.toList_append] at hd
    have := fun hnil => hne (String.toList_eq_nil_iff.mp hnil)
    rwa [List.getLast?_append_of_ne_nil _ this] at hd

/-- White space around a text does not matter. -/
theorem strip_around {before after : String} (hbefore : isBlankText before = true)
    (hafter : isBlankText after = true) (s : String) : strip (before ++ s ++ after) = strip s := by
  rw [strip, String.toList_append, String.toList_append,
    trimBy_around (List.all_eq_true.mp hbefore) (List.all_eq_true.mp hafter), strip]

/-- A text is what is left of it between white space. -/
theorem exists_around_strip (s : String) : ∃ before after, isBlankText before = true ∧
    isBlankText after = true ∧ s = before ++ strip s ++ after := by
  obtain ⟨before, after, hbefore, hafter, hs⟩ := exists_around_trimBy isBlank s.toList
  refine ⟨String.ofList before, String.ofList after, ?_, ?_, String.toList_injective ?_⟩
  · rwa [isBlankText, String.toList_ofList, List.all_eq_true]
  · rwa [isBlankText, String.toList_ofList, List.all_eq_true]
  · rwa [String.toList_append, String.toList_append, String.toList_ofList, String.toList_ofList,
      toList_strip]

/-- Trimming leaves what is not white space. -/
theorem mem_strip {s : String} {c : Char} (hc : c ∈ s.toList) (hblank : isBlank c = false) :
    c ∈ (strip s).toList := by
  obtain ⟨before, after, hbefore, hafter, hs⟩ := exists_around_strip s
  have hnot {t : String} (ht : isBlankText t = true) : c ∉ t.toList := fun hmem => by
    rw [List.all_eq_true.mp ht c hmem] at hblank
    cases hblank
  rw [hs, String.toList_append, String.toList_append, List.mem_append, List.mem_append] at hc
  exact (hc.resolve_right (hnot hafter)).resolve_left (hnot hbefore)

theorem mem_of_mem_strip {s : String} {c : Char} (hc : c ∈ (strip s).toList) : c ∈ s.toList := by
  obtain ⟨before, after, -, -, hs⟩ := exists_around_strip s
  rw [hs, String.toList_append, String.toList_append]
  exact List.mem_append_left _ (List.mem_append_right _ hc)

theorem isBlankText_append (s t : String) :
    isBlankText (s ++ t) = (isBlankText s && isBlankText t) := by
  rw [isBlankText, String.toList_append, List.all_append]
  rfl

/-- Nothing is left of a text exactly if it is blank. -/
theorem strip_eq_empty_iff {s : String} : strip s = "" ↔ isBlankText s = true := by
  constructor
  · intro h
    obtain ⟨before, after, hbefore, hafter, hs⟩ := exists_around_strip s
    rw [hs, h, isBlankText_append, isBlankText_append, hbefore, hafter]
    rfl
  · intro h
    rw [← String.append_empty (s := s), ← String.append_empty (s := s ++ ""), strip_around h rfl]
    rfl

/-- What is left of a text without the white space at its ends is not blank. -/
theorem isBlankText_strip {s : String} (h : strip s ≠ "") : isBlankText (strip s) = false := by
  rw [isBlankText, toList_strip, trimBy, trimEndBy, List.all_reverse]
  cases hleft : (s.toList.dropWhile isBlank).reverse.dropWhile isBlank with
  | nil =>
    rw [strip, trimBy, trimEndBy, hleft] at h
    exact absurd rfl h
  | cons c rest =>
    have hc : isBlank c = false := by
      have hhead := List.head?_dropWhile_not isBlank (s.toList.dropWhile isBlank).reverse
      rw [hleft] at hhead
      exact hhead
    rw [List.all_cons, hc, Bool.false_and]

end PsetCompiler.Text
