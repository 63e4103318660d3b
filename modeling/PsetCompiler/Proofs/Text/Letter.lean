import PsetCompiler.Text.Letter
import Mathlib.Data.List.Basic

/-!
# Capitals stay

A text that was brought to capitals is not changed when this is done again.  It is enough to know
this of single characters, and those that the tables lead to are known: a character stays as it is
if no run of letters holds it, and what a run leads to is held by none.  For runs this is seen from
their ends, and where two of them overlap, from taking every second letter.

## Main definitions

* `LetterRun.isApart` — nothing that one run leads to is in the other one.
* `smallRuns` — the letters that are not capitals.

## Main results

* `upperChar_eq_self` — a letter that no run holds stays.
* `upper_upper` — **a text in capitals stays as it is.**
-/

namespace PsetCompiler.Text

namespace LetterRun

/-- What a run leads to is not in another one: it ends before that starts, starts behind its end, or
the two take turns. -/
def isApart (a b : LetterRun) : Bool :=
  let first := (a.first + a.offset).toNat
  let last := (a.last + a.offset).toNat
  Nat.blt last b.first || Nat.blt b.last first ||
    (b.step == 2 && (a.step == 2 || a.first == a.last) && first % 2 != b.first % 2)

theorem image?_eq_none_of_isApart {a b : LetterRun} (h : a.isApart b)
    (hoffset : 0 ≤ a.first + a.offset) {code image : Nat} (himage : a.image? code = some image) :
    b.image? image = none := by
  rw [image?, Option.ite_none_right_eq_some] at himage
  obtain ⟨⟨hfirst, hlast, hstep⟩, heq⟩ := himage
  obtain rfl : (code + a.offset).toNat = image := Option.some.inj heq
  rw [image?, if_neg]
  rintro ⟨hfirst', hlast', hstep'⟩
  simp only [isApart, Bool.or_eq_true, Bool.and_eq_true, beq_iff_eq, bne_iff_ne, Nat.blt_eq] at h
  rcases h with (h | h) | ⟨⟨hb, ha | ha⟩, hparity⟩
  · omega
  · omega
  · rw [ha] at hstep
    rw [hb] at hstep'
    omega
  · rw [hb] at hstep'
    omega

end LetterRun

/-- The letters that are not capitals: those of ASCII, those of the runs, and those with an
expansion. -/
def smallRuns : List LetterRun :=
  ⟨0x61, 0x7A, 1, -32⟩ ::
    (upperRanges ++ upperExpansions.map fun entry => ⟨entry.1, entry.1, 1, 0⟩)

/-- A letter that no run holds stays as it is. -/
theorem upperChar_eq_self {c : Char} (h : ∀ run ∈ smallRuns, run.image? c.toNat = none) :
    upperChar c = [c] := by
  rw [smallRuns, List.forall_mem_cons, List.forall_mem_append, List.forall_mem_map] at h
  obtain ⟨hascii, hruns, hexpansions⟩ := h
  rw [upperChar]
  split
  · split
    · next hsmall =>
      rw [Bool.and_eq_true, decide_eq_true_eq, decide_eq_true_eq] at hsmall
      have hrun : 0x61 ≤ c.toNat ∧ c.toNat ≤ 0x7A ∧ (c.toNat - 0x61) % 1 = 0 :=
        ⟨hsmall.1, hsmall.2, Nat.mod_one _⟩
      rw [LetterRun.image?, if_pos hrun] at hascii
      cases hascii
    · rfl
  · have hlookup : upperExpansions.lookup c.toNat = none := by
      rw [List.lookup_eq_none_iff]
      intro entry hentry
      rw [bne_iff_ne]
      intro heq
      have hrun : entry.1 ≤ c.toNat ∧ c.toNat ≤ entry.1 ∧ (c.toNat - entry.1) % 1 = 0 :=
        ⟨Nat.le_of_eq heq.symm, Nat.le_of_eq heq, Nat.mod_one _⟩
      have hnone := hexpansions entry hentry
      rw [LetterRun.image?, if_pos hrun] at hnone
      cases hnone
    rw [mapLetter, hlookup, List.findSome?_eq_none_iff.mpr hruns]

/-! ### What the tables lead to -/

theorem isApart_of_mem {a b : LetterRun} (ha : a ∈ upperRanges) (hb : b ∈ smallRuns) :
    a.isApart b := by
  have hall : (upperRanges.all fun a => smallRuns.all a.isApart) = true := by decide +kernel
  exact List.all_eq_true.mp (List.all_eq_true.mp hall a ha) b hb

theorem toNat_ofNat_eq_or (n : Nat) : (Char.ofNat n).toNat = n ∨ (Char.ofNat n).toNat = 0 := by
  by_cases h : n.isValidChar
  · rw [Char.ofNat, dif_pos h]
    exact .inl rfl
  · rw [Char.ofNat, dif_neg h]
    exact .inr rfl

/-- The image of a letter under a run stays as it is. -/
theorem upperChar_image {run : LetterRun} (hrun : run ∈ upperRanges) {code image : Nat}
    (h : run.image? code = some image) : upperChar (Char.ofNat image) = [Char.ofNat image] := by
  have hoffset : 0 ≤ run.first + run.offset := by
    have hall : ∀ run ∈ upperRanges, 0 ≤ run.first + run.offset := by decide +kernel
    exact hall run hrun
  refine upperChar_eq_self fun other hother => ?_
  rcases toNat_ofNat_eq_or image with heq | heq
  · rw [heq]
    exact LetterRun.image?_eq_none_of_isApart (isApart_of_mem hrun hother) hoffset h
  · have hpos : ∀ run ∈ smallRuns, 0 < run.first := by decide +kernel
    rw [heq, LetterRun.image?, if_neg]
    exact fun hmem => Nat.not_lt.mpr hmem.1 (hpos other hother)

/-- The capital of a letter of ASCII stays as it is. -/
theorem upperChar_ascii {c : Char} (h : 'a' ≤ c ∧ c ≤ 'z') :
    upperChar (Char.ofNat (c.toNat - 32)) = [Char.ofNat (c.toNat - 32)] := by
  have hcode : 0x61 ≤ c.toNat ∧ c.toNat ≤ 0x7A := h
  have hall : ∀ k < 26, upperChar (Char.ofNat (0x41 + k)) = [Char.ofNat (0x41 + k)] := by
    decide +kernel
  have hcapital : c.toNat - 32 = 0x41 + (c.toNat - 0x61) := by omega
  rw [hcapital]
  exact hall _ (by omega)

/-- A character leads to those of its expansion, to its image under a run, or to itself. -/
theorem mem_mapLetter {runs : List LetterRun} {expansions : List (Nat × List Nat)} {c d : Char}
    (h : d ∈ mapLetter runs expansions c) :
    (∃ entry ∈ expansions, ∃ code ∈ entry.2, d = Char.ofNat code) ∨
      (∃ run ∈ runs, ∃ image, run.image? c.toNat = some image ∧ d = Char.ofNat image) ∨
      d = c ∧ mapLetter runs expansions c = [c] := by
  unfold mapLetter at h ⊢
  split at h
  · next codes hcodes =>
    obtain ⟨code, hcode, heq⟩ := List.mem_map.mp h
    obtain ⟨before, after, rfl, -⟩ := List.lookup_eq_some_iff.mp hcodes
    exact .inl ⟨_, List.mem_append_right _ List.mem_cons_self, code, hcode, heq.symm⟩
  · next hcodes =>
    split at h
    · next image himage =>
      obtain ⟨run, hrun, himage⟩ := List.exists_of_findSome?_eq_some himage
      exact .inr (.inl ⟨run, hrun, image, himage, List.mem_singleton.mp h⟩)
    · exact .inr (.inr ⟨List.mem_singleton.mp h, rfl⟩)

/-- The capital form of a character holds characters that stay as they are. -/
theorem upperChar_of_mem {c d : Char} (h : d ∈ upperChar c) : upperChar d = [d] := by
  rw [upperChar] at h
  split at h
  · next hascii =>
    split at h
    · next hsmall =>
      rw [Bool.and_eq_true, decide_eq_true_eq, decide_eq_true_eq] at hsmall
      rw [List.mem_singleton.mp h]
      exact upperChar_ascii hsmall
    · next hother => rw [List.mem_singleton.mp h, upperChar, if_pos hascii, if_neg hother]
  · next hascii =>
    rcases mem_mapLetter h with ⟨entry, hentry, code, hcode, rfl⟩ |
      ⟨run, hrun, image, himage, rfl⟩ | ⟨rfl, hsame⟩
    · have hall : ∀ entry ∈ upperExpansions, ∀ code ∈ entry.2,
          upperChar (Char.ofNat code) = [Char.ofNat code] := by decide +kernel
      exact hall entry hentry code hcode
    · exact upperChar_image hrun himage
    · rw [upperChar, if_neg hascii, hsame]

/-- **A text in capitals stays as it is.** -/
@[simp] theorem upper_upper (s : String) : upper (upper s) = upper s := by
  rw [upper, upper, String.toList_ofList, List.flatMap_assoc]
  refine congrArg String.ofList (List.flatMap_congr fun c _ => ?_)
  rw [List.flatMap_congr fun d hd => upperChar_of_mem hd]
  exact List.flatMap_singleton' _

end PsetCompiler.Text
