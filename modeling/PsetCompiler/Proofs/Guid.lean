import PsetCompiler.Guid
import PsetCompiler.Proofs.Text.Digit
import PsetCompiler.Proofs.Text.Split

/-!
# Reading back identifiers

The written form of an identifier holds hexadecimal digits and hyphens only.  So the reader finds
nothing to pass over but the hyphens, and what is left are the 32 digits.

## Main results

* `Guid.read?_text` — **an identifier is read back from its written form.**
* `Guid.text_injective` — different identifiers are written differently.
-/

namespace PsetCompiler

namespace Guid

/-- The digits of an identifier. -/
def digits (g : Guid) : List Char :=
  Text.hexDigits 32 g.bits.toNat

/-- The characters of a written identifier. -/
def alphabet : List Char :=
  "0123456789abcdef-".toList

/-- What all characters of the alphabet have in common is found by looking at each. -/
theorem of_mem_alphabet {p : Char → Prop} [DecidablePred p]
    (h : (alphabet.all fun c => decide (p c)) = true) {c : Char} (hc : c ∈ alphabet) : p c :=
  of_decide_eq_true (List.all_eq_true.mp h c hc)

theorem hexDigit_mem_alphabet {d : Nat} (h : d < 16) :
    Text.hexDigit d ∈ alphabet ∧ Text.hexDigit d ≠ '-' := by
  revert d
  decide

theorem mem_alphabet_of_mem_digits {g : Guid} {c : Char} (h : c ∈ g.digits) :
    c ∈ alphabet ∧ c ≠ '-' := by
  obtain ⟨d, hd, rfl⟩ := Text.exists_of_mem_hexDigits h
  exact hexDigit_mem_alphabet hd

/-- Without the hyphens the groups make up the digits again. -/
theorem filter_grouped {ds : List Char} (h : ∀ c ∈ ds, c ≠ '-') :
    (grouped ds).filter (· != '-') = ds := by
  have hkeep {es : List Char} (hsub : es ⊆ ds) : es.filter (· != '-') = es := by
    rw [List.filter_eq_self]
    exact fun c hc => bne_iff_ne.mpr (h c (hsub hc))
  have hgroup (n k : Nat) : (ds.drop n).take k ⊆ ds :=
    fun _ hc => List.mem_of_mem_drop (List.mem_of_mem_take hc)
  have hjoin (n : Nat) : (ds.drop n).take 4 ++ ds.drop (n + 4) = ds.drop n := by
    rw [← List.drop_drop, List.take_append_drop]
  have hhyphen (es : List Char) : ('-' :: es).filter (· != '-') = es.filter (· != '-') := rfl
  simp only [grouped, List.filter_append, hhyphen, hkeep (List.take_subset 8 ds),
    hkeep (hgroup _ _), hkeep (List.drop_subset 20 ds), List.append_assoc]
  rw [hjoin 16, hjoin 12, hjoin 8, List.take_append_drop]

theorem mem_alphabet_of_mem_text {g : Guid} {c : Char} (h : c ∈ g.text.toList) : c ∈ alphabet := by
  have hdigit {cs : List Char} (hsub : cs ⊆ g.digits) (hc : c ∈ cs) : c ∈ alphabet :=
    (mem_alphabet_of_mem_digits (hsub hc)).1
  have hgroup (n k : Nat) : (g.digits.drop n).take k ⊆ g.digits :=
    fun _ hc => List.mem_of_mem_drop (List.mem_of_mem_take hc)
  have hhyphen {cs : List Char} (hsub : cs ⊆ g.digits) (hc : c ∈ '-' :: cs) : c ∈ alphabet := by
    rcases List.mem_cons.mp hc with rfl | hc
    · decide
    · exact hdigit hsub hc
  rw [text, String.toList_ofList, grouped, List.mem_append, List.mem_append, List.mem_append,
    List.mem_append] at h
  rcases h with (((h | h) | h) | h) | h
  · exact hdigit (List.take_subset _ _) h
  · exact hhyphen (hgroup _ _) h
  · exact hhyphen (hgroup _ _) h
  · exact hhyphen (hgroup _ _) h
  · exact hhyphen (List.drop_subset _ _) h

/-- The digits are read as the number that they are of. -/
theorem readInteger_digits (g : Guid) :
    Text.readInteger 16 (String.ofList g.digits) = some (g.bits.toNat : Int) := by
  have hdigits : ∀ c ∈ g.digits, c ∈ Text.hexAlphabet := by
    intro c hc
    obtain ⟨d, hd, rfl⟩ := Text.exists_of_mem_hexDigits hc
    exact Text.hexDigit_mem_hexAlphabet hd
  have hread : Text.readDigits 16 false 0 g.digits = some g.bits.toNat :=
    Text.readDigits_hexDigits g.bits.isLt
  rw [Text.readInteger_of_mem_hexAlphabet hdigits, hread]
  rfl

theorem digitsOf_text (g : Guid) : digitsOf g.text = g.digits := by
  have hnone {c : Char} (hc : c ∉ alphabet) : c ∉ g.text.toList :=
    mt mem_alphabet_of_mem_text hc
  have hkeep (old : String) (hold : 'u' ∈ old.toList) : Text.replaceAll old "" g.text = g.text := by
    rw [Text.replaceAll, Text.replaceFrom_eq_self hold (hnone (by decide)), String.ofList_toList]
  have hbraces : ∀ c ∈ g.text.toList, (decide (c = '\x7b' ∨ c = '\x7d')) = false := fun c hc =>
    decide_eq_false <| of_mem_alphabet (p := fun c => ¬(c = '\x7b' ∨ c = '\x7d')) (by decide)
      (mem_alphabet_of_mem_text hc)
  have hurn : Text.replaceAll "urn:" "" g.text = g.text := hkeep _ (by decide)
  have huuid : Text.replaceAll "uuid:" "" g.text = g.text := hkeep _ (by decide)
  unfold digitsOf
  rw [hurn, huuid]
  dsimp only
  rw [Text.trimBy_eq_self hbraces, text, String.toList_ofList]
  exact filter_grouped fun c hc => (mem_alphabet_of_mem_digits hc).2

/-- An identifier is read back from its written form. -/
@[simp] theorem read?_text (g : Guid) : read? g.text = some g := by
  have hlength : g.digits.length = 32 := Text.length_hexDigits 32 _
  rw [read?, read, digitsOf_text, if_pos hlength, readInteger_digits]
  show some (ofNat g.bits.toNat) = some g
  rw [ofNat, BitVec.ofNat_toNat, BitVec.setWidth_eq]

/-- Different identifiers are written differently. -/
theorem text_injective : Function.Injective text := by
  intro g g' h
  have hread : read? g.text = read? g'.text := congrArg read? h
  rwa [read?_text, read?_text, Option.some_inj] at hread

/-- A written identifier has no white space around it. -/
@[simp] theorem strip_text (g : Guid) : Text.strip g.text = g.text := by
  exact Text.strip_eq_self fun c hc =>
    of_mem_alphabet (p := (Text.isBlank · = false)) (by decide) (mem_alphabet_of_mem_text hc)

end Guid

end PsetCompiler
