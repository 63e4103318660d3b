import PsetCompiler.Proofs.Text.Blank
import PsetCompiler.Text.Digit
import PsetCompiler.Text.Quoted
import Mathlib.Algebra.Group.Nat.Defs
import Mathlib.Data.List.Forall2
import Mathlib.Data.List.Induction
import Mathlib.Data.Nat.Digits.Defs

/-!
# Reading back numbers

A whole number that is written in base ten, or in base sixteen with leading zeros, is read back.
The reader goes from the first digit to the last and the writers put the last digit behind the
others, so the induction is on what is written and takes the last digit off.

In base ten the reader and the writer have one limit: a number that was read has few enough digits
to be written, and what was written can be read.  Leading zeros count as digits for the reader, so
the bound on the number comes from the digits in the text, one by one.

Capitals have the values of small letters, and what is written with hexadecimal digits of either
case holds nothing else that the reader would pass over.

## Main definitions

* `hexAlphabet`, `IsEitherCase` — the hexadecimal digits, and a digit written small or capital.

## Main results

* `readInteger_toString` — **a whole number is read back from its decimal digits.**
* `isWritable_of_readNumber`, `readNumber_toString` — the limit of reading is that of writing.
* `readDigits_hexDigits` — a number is read back from hexadecimal digits that are enough for it.
* `readInteger_of_mem_hexAlphabet`, `readDigits_eitherCase` — reading digits of either case.
* `exists_hexDigits` — whatever hexadecimal digits are written, they are those of a number.
-/

namespace PsetCompiler.Text

/-- One more digit at the end. -/
theorem readDigits_concat {base value : Nat} {afterDigit : Bool} {cs : List Char} {c : Char}
    {digit result : Nat} (hc : c ≠ '_') (hdigit : digitValue? c = some digit) (hbase : digit < base)
    (h : readDigits base afterDigit value cs = some result) :
    readDigits base afterDigit value (cs ++ [c]) = some (result * base + digit) := by
  induction cs generalizing afterDigit value with
  | nil =>
    rw [readDigits] at h
    split at h
    · cases h
      simp [readDigits, hc, hdigit, hbase]
    · cases h
  | cons d cs ih =>
    rw [readDigits] at h
    rw [List.cons_append, readDigits]
    split at h
    · next hd =>
      rw [if_pos hd]
      split at h
      · next hafter =>
        rw [if_pos hafter]
        exact ih h
      · cases h
    · next hd =>
      rw [if_neg hd]
      split at h
      · split at h
        · next hlt =>
          rw [if_pos hlt]
          exact ih h
        · cases h
      · cases h

/-! ### Base ten -/

theorem digitValue?_digitChar {d : Nat} (h : d < 10) :
    d.digitChar ≠ '_' ∧ digitValue? d.digitChar = some d := by
  revert d
  decide

theorem readDigits_toDigits (n : Nat) : readDigits 10 false 0 (Nat.toDigits 10 n) = some n := by
  induction n using Nat.strongRecOn with
  | ind n ih =>
    rw [Nat.toDigits_eq_if (by decide)]
    split
    · next hlt =>
      obtain ⟨hc, hdigit⟩ := digitValue?_digitChar hlt
      simp [readDigits, hc, hdigit, hlt]
    · next hge =>
      have hmod : n % 10 < 10 := Nat.mod_lt n (by decide)
      obtain ⟨hc, hdigit⟩ := digitValue?_digitChar hmod
      rw [readDigits_concat hc hdigit hmod (ih (n / 10) (by omega)), Nat.div_add_mod']

theorem toNat_of_isDigit {c : Char} (h : c.isDigit) : 48 ≤ c.toNat ∧ c.toNat ≤ 57 := by
  rw [Char.isDigit, Bool.and_eq_true, decide_eq_true_eq, decide_eq_true_eq] at h
  exact h

theorem isNumberBlank_of_isDigit {c : Char} (h : c.isDigit) : isNumberBlank c = false := by
  have hc := toNat_of_isDigit h
  simp only [isNumberBlank, isBlank, Bool.and_eq_false_iff]
  left
  simp
  omega

theorem readInteger_of_isDigit {cs : List Char} (h : ∀ c ∈ cs, c.isDigit) {n : Nat}
    (hread : readDigits 10 false 0 cs = some n) :
    readInteger 10 (String.ofList cs) = some (n : Int) ∧
      readInteger 10 (String.ofList ('-' :: cs)) = some (-(n : Int)) := by
  have hblank : ∀ c ∈ cs, isNumberBlank c = false := fun c hc => isNumberBlank_of_isDigit (h c hc)
  constructor
  · rw [readInteger, String.toList_ofList, trimBy_eq_self hblank]
    split
    · next rest heq => exact absurd (h '+' List.mem_cons_self) (by decide)
    · next rest heq => exact absurd (h '-' List.mem_cons_self) (by decide)
    · rw [readMagnitude, if_neg (by decide), hread]
      rfl
  · have hsign : ∀ c ∈ '-' :: cs, isNumberBlank c = false :=
      List.forall_mem_cons.mpr ⟨by decide, hblank⟩
    rw [readInteger, String.toList_ofList, trimBy_eq_self hsign]
    show (readMagnitude 10 cs).map _ = _
    rw [readMagnitude, if_neg (by decide), hread]
    rfl

/-- A whole number is read back from its decimal digits. -/
theorem readInteger_toString (n : Int) : readInteger 10 (toString n) = some n := by
  have hdigits (m : Nat) := readInteger_of_isDigit
    (fun c hc => Nat.isDigit_of_mem_toDigits (by decide) (by decide) hc) (readDigits_toDigits m)
  cases n with
  | ofNat m => exact (hdigits m).1
  | negSucc m =>
    have hrepr : toString (Int.negSucc m) = String.ofList ('-' :: Nat.toDigits 10 (m + 1)) := by
      show "-" ++ (m + 1).repr = _
      rw [Nat.repr_eq_ofList_toDigits, String.ofList_cons]
      rfl
    rw [hrepr, (hdigits (m + 1)).2]
    rfl

/-! ### The limit -/

theorem isWritable_iff {n : Int} : IsWritable n ↔ n.natAbs < 10 ^ digitLimit := by
  rw [IsWritable, Nat.pow_eq]

/-- Small numbers are within the limit. -/
theorem isWritable_of_lt {n : Int} (h : n.natAbs < 10 ^ 9) : IsWritable n := by
  have hle : 10 ^ 9 ≤ 10 ^ digitLimit := Nat.pow_le_pow_right (by decide) (by decide)
  exact isWritable_iff.mpr (Nat.lt_of_lt_of_le h hle)

/-- In base ten only decimal digits have values. -/
theorem decimalDigit?_of_digitValue? {c : Char} {digit : Nat} (h : digitValue? c = some digit)
    (hlt : digit < 10) : decimalDigit? c = some digit := by
  unfold digitValue? at h
  split at h
  · next value hvalue => rw [hvalue, h]
  · -- letters follow nine
    have hletter {first : Char} {offset : Nat} (hfirst : first ≤ c)
        (hoffset : offset + 10 ≤ first.toNat) : ¬(c.toNat - offset < 10) := by
      have hle : first.toNat ≤ c.toNat := UInt32.le_iff_toNat_le.mp hfirst
      omega
    split at h
    · next hsmall =>
      rw [Bool.and_eq_true, decide_eq_true_eq] at hsmall
      cases h
      exact absurd hlt (hletter hsmall.1 (by decide))
    · split at h
      · next hcapital =>
        rw [Bool.and_eq_true, decide_eq_true_eq] at hcapital
        cases h
        exact absurd hlt (hletter hcapital.1 (by decide))
      · cases h

/-- What digits spell behind a value is bounded by their number. -/
theorem lt_of_readDigits {afterDigit : Bool} {value n : Nat} {cs : List Char}
    (h : readDigits 10 afterDigit value cs = some n) :
    n < (value + 1) * 10 ^ cs.countP isDecimalDigit := by
  induction cs generalizing afterDigit value with
  | nil =>
    rw [readDigits] at h
    split at h
    · cases h
      simp
    · cases h
  | cons c cs ih =>
    rw [readDigits] at h
    split at h
    · next hc =>
      split at h
      · have hnone : ¬ isDecimalDigit c := by
          rw [hc]
          decide
        rw [List.countP_cons_of_neg hnone]
        exact ih h
      · cases h
    · split at h
      · next digit hdigit =>
        split at h
        · next hlt =>
          have hsome : isDecimalDigit c := by
            rw [isDecimalDigit, decimalDigit?_of_digitValue? hdigit hlt]
            rfl
          have hnext : value * 10 + digit + 1 ≤ (value + 1) * 10 := by omega
          rw [List.countP_cons_of_pos hsome, Nat.pow_succ', ← Nat.mul_assoc]
          exact Nat.lt_of_lt_of_le (ih h) (Nat.mul_le_mul_right _ hnext)
        · cases h
      · cases h

/-- A number has no more digits than stand in the text that spells it. -/
theorem natAbs_lt_of_readInteger {s : String} {n : Int} (h : readInteger 10 s = some n) :
    n.natAbs < 10 ^ digitCount s := by
  obtain ⟨before, after, -, -, hs⟩ := exists_around_trimBy isNumberBlank s.toList
  have hcount {cs : List Char} (hcs : cs.Sublist (trimBy isNumberBlank s.toList)) {m : Nat}
      (hm : readMagnitude 10 cs = some m) : m < 10 ^ digitCount s := by
    have hread : readDigits 10 false 0 cs = some m := hm
    have hsub : cs.Sublist s.toList := by
      rw [hs]
      exact hcs.trans ((List.sublist_append_right _ _).trans (List.sublist_append_left _ _))
    have hlt := lt_of_readDigits hread
    rw [Nat.zero_add, Nat.one_mul] at hlt
    exact Nat.lt_of_lt_of_le hlt (Nat.pow_le_pow_right (by decide) hsub.countP_le)
  unfold readInteger at h
  split at h
  · next rest heq =>
    obtain ⟨m, hm, rfl⟩ := Option.map_eq_some_iff.mp h
    exact hcount (heq ▸ List.sublist_cons_self _ _) hm
  · next rest heq =>
    obtain ⟨m, hm, rfl⟩ := Option.map_eq_some_iff.mp h
    rw [Int.natAbs_neg]
    exact hcount (heq ▸ List.sublist_cons_self _ _) hm
  · obtain ⟨m, hm, rfl⟩ := Option.map_eq_some_iff.mp h
    exact hcount (.refl _) hm

/-- A number that was read can be written. -/
theorem isWritable_of_readNumber {s : String} {n : Int} (h : readNumber s = some n) :
    IsWritable n := by
  unfold readNumber at h
  split at h
  · next hcount =>
    have hle : 10 ^ digitCount s ≤ 10 ^ digitLimit := Nat.pow_le_pow_right (by decide) hcount
    exact isWritable_iff.mpr (Nat.lt_of_lt_of_le (natAbs_lt_of_readInteger h) hle)
  · cases h

/-- There are no more digits in a number that is written than it has. -/
theorem digitCount_toString_le {n : Int} (h : IsWritable n) :
    digitCount (toString n) ≤ digitLimit := by
  have hlength : (Nat.toDigits 10 n.natAbs).length ≤ digitLimit :=
    Nat.toDigits_length 10 _ _ (by decide) (isWritable_iff.mp h)
  have hdigits : digitCount (toString n) ≤ (Nat.toDigits 10 n.natAbs).length := by
    cases n with
    | ofNat m =>
      rw [digitCount, show toString (Int.ofNat m) = m.repr from rfl, Nat.toList_repr]
      exact List.countP_le_length
    | negSucc m =>
      have hsign : ¬ isDecimalDigit '-' := by decide
      rw [digitCount, show toString (Int.negSucc m) = "-" ++ (m + 1).repr from rfl,
        String.toList_append, Nat.toList_repr]
      exact (List.countP_cons_of_neg hsign).trans_le List.countP_le_length
  exact Nat.le_trans hdigits hlength

/-- A number that can be written is read back. -/
theorem readNumber_toString {n : Int} (h : IsWritable n) : readNumber (toString n) = some n := by
  rw [readNumber, if_pos (digitCount_toString_le h), readInteger_toString]

/-! ### Base sixteen -/

theorem digitValue?_hexDigit {d : Nat} (h : d < 16) :
    hexDigit d ≠ '_' ∧ digitValue? (hexDigit d) = some d := by
  revert d
  decide

@[simp] theorem length_hexDigits (width n : Nat) : (hexDigits width n).length = width := by
  induction width generalizing n with
  | zero => rfl
  | succ width ih => rw [hexDigits, List.length_append, ih, List.length_singleton]

theorem exists_of_mem_hexDigits {width n : Nat} {c : Char} (h : c ∈ hexDigits width n) :
    ∃ d < 16, c = hexDigit d := by
  induction width generalizing n with
  | zero => cases h
  | succ width ih =>
    rw [hexDigits, List.mem_append, List.mem_singleton] at h
    rcases h with h | h
    · exact ih h
    · exact ⟨n % 16, Nat.mod_lt n (by decide), h⟩

/-- A number is read back from hexadecimal digits that are enough for it. -/
theorem readDigits_hexDigits {width n : Nat} (h : n < 16 ^ (width + 1)) :
    readDigits 16 false 0 (hexDigits (width + 1) n) = some n := by
  induction width generalizing n with
  | zero =>
    have hn : n < 16 := h
    obtain ⟨hc, hdigit⟩ := digitValue?_hexDigit hn
    rw [hexDigits, hexDigits, Nat.mod_eq_of_lt hn]
    simp [readDigits, hc, hdigit, hn]
  | succ width ih =>
    have hmod : n % 16 < 16 := Nat.mod_lt n (by decide)
    obtain ⟨hc, hdigit⟩ := digitValue?_hexDigit hmod
    have hdiv : n / 16 < 16 ^ (width + 1) := by
      rw [Nat.pow_succ] at h
      omega
    rw [hexDigits, readDigits_concat hc hdigit hmod (ih hdiv), Nat.div_add_mod']

/-! ### Capitals among the digits -/

/-- The hexadecimal digits, small and capital. -/
def hexAlphabet : List Char :=
  "0123456789abcdefABCDEF".toList

/-- What some characters have in common is found by looking at each of them, and not at all
characters. -/
theorem of_mem_of_all {p : Char → Prop} [DecidablePred p] {cs : List Char}
    (h : (cs.all fun c => decide (p c)) = true) {c : Char} (hc : c ∈ cs) : p c :=
  of_decide_eq_true (List.all_eq_true.mp h c hc)

theorem hexDigit_mem_hexAlphabet {d : Nat} (h : d < 16) : hexDigit d ∈ hexAlphabet := by
  revert d
  decide

theorem dropHexMark_of_mem_hexAlphabet {cs : List Char} (h : ∀ c ∈ cs, c ∈ hexAlphabet) :
    dropHexMark cs = cs := by
  unfold dropHexMark
  split
  · next zero x rest =>
    have hx : ¬(x = 'x' ∨ x = 'X') :=
      of_mem_of_all (p := fun c => ¬(c = 'x' ∨ c = 'X')) (by decide) (h x (by simp))
    rw [if_neg fun hmark => hx hmark.2]
  · rfl

/-- Neither white space nor a sign nor a mark of the base stands among hexadecimal digits. -/
theorem readInteger_of_mem_hexAlphabet {cs : List Char} (h : ∀ c ∈ cs, c ∈ hexAlphabet) :
    readInteger 16 (String.ofList cs) = (readDigits 16 false 0 cs).map Int.ofNat := by
  have hblank : ∀ c ∈ cs, isNumberBlank c = false := fun c hc =>
    of_mem_of_all (p := (isNumberBlank · = false)) (by decide) (h c hc)
  rw [readInteger, String.toList_ofList, trimBy_eq_self hblank]
  split
  · exact absurd (h '+' List.mem_cons_self) (by decide)
  · exact absurd (h '-' List.mem_cons_self) (by decide)
  · rw [readMagnitude, if_pos rfl, dropHexMark_of_mem_hexAlphabet h]

/-- A character is a digit, small or capital. -/
def IsEitherCase (c digit : Char) : Prop :=
  c = digit ∨ c = digit.toUpper

instance (c digit : Char) : Decidable (IsEitherCase c digit) :=
  inferInstanceAs (Decidable (_ ∨ _))

theorem IsEitherCase.of_hexDigit {c : Char} {d : Nat} (hd : d < 16)
    (h : IsEitherCase c (hexDigit d)) :
    c ∈ hexAlphabet ∧ c ≠ '_' ∧ digitValue? c = digitValue? (hexDigit d) := by
  have hall : ∀ d < 16, ([hexDigit d, (hexDigit d).toUpper].all fun c =>
      decide (c ∈ hexAlphabet ∧ c ≠ '_' ∧ digitValue? c = digitValue? (hexDigit d))) = true := by
    decide
  exact of_mem_of_all (hall d hd) (by simpa [IsEitherCase] using h)

/-- Capitals have the value of small letters. -/
theorem readDigits_eitherCase {base value : Nat} {afterDigit : Bool} {cs digits : List Char}
    (h : List.Forall₂ IsEitherCase cs digits) (hdigits : ∀ c ∈ digits, ∃ d < 16, c = hexDigit d) :
    readDigits base afterDigit value cs = readDigits base afterDigit value digits := by
  induction h generalizing value afterDigit with
  | nil => rfl
  | @cons c digit cs digits hcase _ ih =>
    rw [List.forall_mem_cons] at hdigits
    obtain ⟨⟨d, hd, rfl⟩, hrest⟩ := hdigits
    obtain ⟨-, hc, hvalue⟩ := hcase.of_hexDigit hd
    simp only [readDigits, if_neg hc, if_neg (digitValue?_hexDigit hd).1, hvalue, ih hrest]

/-- Whatever hexadecimal digits are written, they are those of a number. -/
theorem exists_hexDigits {cs : List Char} (h : ∀ c ∈ cs, ∃ d < 16, c = hexDigit d) :
    ∃ n < 16 ^ cs.length, hexDigits cs.length n = cs := by
  induction cs using List.reverseRecOn with
  | nil => exact ⟨0, by decide, rfl⟩
  | append_singleton cs c ih =>
    obtain ⟨n, hn, hcs⟩ := ih fun c hc => h c (List.mem_append_left _ hc)
    obtain ⟨d, hd, rfl⟩ := h c (by simp)
    have hdiv : (n * 16 + d) / 16 = n := by omega
    have hmod : (n * 16 + d) % 16 = d := by omega
    refine ⟨n * 16 + d, ?_, ?_⟩
    · rw [List.length_append, List.length_singleton, Nat.pow_succ]
      omega
    · rw [List.length_append, List.length_singleton, hexDigits, hdiv, hmod, hcs]

end PsetCompiler.Text
