import PsetCompiler.Proofs.Guid
import PsetCompiler.Proofs.Outcome

/-!
# The spellings of an identifier

An identifier is spelled in many ways: its digits are small or capital, with hyphens or without, and
they stand in braces or behind a mark, in either order and also more than once.  The reader deletes
the two parts of the mark wherever it finds them, so it has to be seen that what one deletion leaves
is spelled in the same way, with a shorter mark; when nothing is left of the mark, only braces are
trimmed.

One of the spellings is the written form.  Any text of its shape, five groups of small digits, is
the written form of an identifier.

## Main definitions

* `Dressed`, `IsSpelling` — digits in their braces and marks, and the spellings of an identifier.
* `IsGrouped` — the shape of the written form.

## Main results

* `read?_of_isSpelling` — **every spelling of an identifier is read as the identifier.**
* `isGrouped_iff` — **the texts of the shape are the written forms.**
-/

namespace PsetCompiler

namespace Guid

/-! ### Spellings -/

/-- A text in braces and behind a mark, any number of times. -/
inductive Dressed (mark body : List Char) : List Char → Prop
  /-- The text alone. -/
  | bare : Dressed mark body body
  /-- Braces around. -/
  | braced {cs : List Char} : Dressed mark body cs → Dressed mark body ('\x7b' :: cs ++ ['\x7d'])
  /-- The mark in front. -/
  | marked {cs : List Char} : Dressed mark body cs → Dressed mark body (mark ++ cs)

/-- The digits of an identifier, each small or capital, with or without hyphens among them. -/
def IsDigitsOf (g : Guid) (body : List Char) : Prop :=
  List.Forall₂ Text.IsEitherCase (body.filter (· != '-')) g.digits

instance (g : Guid) (body : List Char) : Decidable (g.IsDigitsOf body) :=
  inferInstanceAs (Decidable (List.Forall₂ _ _ _))

/-- A text spells an identifier: its digits, dressed, with white space around. -/
def IsSpelling (g : Guid) (s : String) : Prop :=
  ∃ before body dressed after, s.toList = before ++ dressed ++ after ∧
    (∀ c ∈ before, Text.isBlank c = true) ∧ (∀ c ∈ after, Text.isBlank c = true) ∧
    g.IsDigitsOf body ∧ Dressed "urn:uuid:".toList body dressed

/-- The characters between braces and marks are hexadecimal digits and hyphens. -/
theorem IsDigitsOf.mem_body {g : Guid} {body : List Char} (h : g.IsDigitsOf body) {c : Char}
    (hc : c ∈ body) : c ∈ '-' :: Text.hexAlphabet := by
  by_cases hhyphen : c = '-'
  · exact List.mem_cons.mpr (.inl hhyphen)
  · have hkept : c ∈ body.filter (· != '-') :=
      List.mem_filter.mpr ⟨hc, bne_iff_ne.mpr hhyphen⟩
    obtain ⟨digit, hdigit, hcase⟩ := exists_left_of_mem h.flip hkept
    obtain ⟨d, hd, rfl⟩ := Text.exists_of_mem_hexDigits hdigit
    exact List.mem_cons_of_mem _ (Text.IsEitherCase.of_hexDigit hd hcase).1

/-- What is deleted from a dressed text is deleted from the mark. -/
theorem Dressed.replace {mark rest old body cs : List Char} (h : Dressed mark body cs)
    (hold : old ≠ []) (hopen : '\x7b' ∉ old) (hclose : '\x7d' ∉ old)
    (hbody : Text.replaceFrom old [] 0 body = body)
    (hmark : ∀ ds, Text.replaceFrom old [] 0 (mark ++ ds) =
      rest ++ Text.replaceFrom old [] 0 ds) :
    Dressed rest body (Text.replaceFrom old [] 0 cs) := by
  induction h with
  | bare =>
    rw [hbody]
    exact .bare
  | @braced cs _ ih =>
    have hfirst : ¬ old.isPrefixOf ('\x7b' :: (cs ++ ['\x7d'])) = true := by
      rw [List.isPrefixOf_iff_prefix]
      intro hbegins
      cases old with
      | nil => exact hold rfl
      | cons c old =>
        rw [List.cons_prefix_cons] at hbegins
        exact hopen (hbegins.1 ▸ List.mem_cons_self)
    rw [List.cons_append, Text.replaceFrom, if_neg hfirst,
      Text.replaceFrom_concat hold hclose (Nat.zero_le _)]
    exact .braced ih
  | marked _ ih =>
    rw [hmark]
    exact .marked ih

/-- Braces are trimmed when nothing is left of the mark. -/
theorem Dressed.trimBy {p : Char → Bool} {body cs : List Char} (h : Dressed [] body cs)
    (hopen : p '\x7b' = true) (hclose : p '\x7d' = true) : Text.trimBy p cs = Text.trimBy p body := by
  induction h with
  | bare => rfl
  | @braced cs _ ih =>
    have hbraces : Text.trimBy p (['\x7b'] ++ cs ++ ['\x7d']) = Text.trimBy p cs :=
      Text.trimBy_around (List.forall_mem_singleton.mpr hopen)
        (List.forall_mem_singleton.mpr hclose) cs
    exact hbraces.trans ih
  | marked _ ih => exact ih

/-- What is read as digits of a dressed text. -/
theorem digitsOf_of_dressed {g : Guid} {body cs : List Char} (hbody : g.IsDigitsOf body)
    (h : Dressed "urn:uuid:".toList body cs) :
    digitsOf (String.ofList cs) = body.filter (· != '-') := by
  have hnone {c : Char} (hc : c ∉ '-' :: Text.hexAlphabet) : c ∉ body := mt hbody.mem_body hc
  have hurn : Dressed "uuid:".toList body (Text.replaceFrom "urn:".toList [] 0 cs) :=
    h.replace (by decide) (by decide) (by decide)
      (Text.replaceFrom_eq_self (c := 'u') (by decide) (hnone (by decide))) fun ds => rfl
  have huuid : Dressed [] body
      (Text.replaceFrom "uuid:".toList [] 0 (Text.replaceFrom "urn:".toList [] 0 cs)) :=
    hurn.replace (by decide) (by decide) (by decide)
      (Text.replaceFrom_eq_self (c := 'u') (by decide) (hnone (by decide))) fun ds => rfl
  have hbraces : ∀ c ∈ body, decide (c = '\x7b' ∨ c = '\x7d') = false := by
    intro c hc
    exact decide_eq_false (Text.of_mem_of_all (p := fun c => ¬(c = '\x7b' ∨ c = '\x7d'))
      (by decide) (hbody.mem_body hc))
  unfold digitsOf
  simp only [Text.replaceAll, String.toList_ofList, String.toList_empty]
  rw [huuid.trimBy (by decide) (by decide), Text.trimBy_eq_self hbraces]

/-- No white space stands in a dressed text. -/
theorem isBlank_of_dressed {g : Guid} {body cs : List Char} (hbody : g.IsDigitsOf body)
    (h : Dressed "urn:uuid:".toList body cs) : ∀ c ∈ cs, Text.isBlank c = false := by
  induction h with
  | bare =>
    intro c hc
    exact Text.of_mem_of_all (p := (Text.isBlank · = false)) (by decide) (hbody.mem_body hc)
  | braced _ ih =>
    rw [List.forall_mem_append, List.forall_mem_cons, List.forall_mem_singleton]
    exact ⟨⟨by decide, ih⟩, by decide⟩
  | marked _ ih =>
    rw [List.forall_mem_append]
    exact ⟨fun c => Text.of_mem_of_all (p := (Text.isBlank · = false)) (by decide), ih⟩

/-- **Every spelling of an identifier is read as the identifier.** -/
theorem read?_of_isSpelling {g : Guid} {s : String} (h : g.IsSpelling s) :
    read? (Text.strip s) = some g := by
  obtain ⟨before, body, cs, after, hs, hbefore, hafter, hbody, hdressed⟩ := h
  have hstrip : Text.strip s = String.ofList cs := by
    rw [Text.strip, hs, Text.trimBy_around hbefore hafter,
      Text.trimBy_eq_self (isBlank_of_dressed hbody hdressed)]
  have hlength : (body.filter (· != '-')).length = 32 := by
    rw [List.Forall₂.length_eq hbody]
    exact Text.length_hexDigits 32 _
  have halphabet : ∀ c ∈ body.filter (· != '-'), c ∈ Text.hexAlphabet := by
    intro c hc
    obtain ⟨hmem, hne⟩ := List.mem_filter.mp hc
    exact (List.mem_cons.mp (hbody.mem_body hmem)).resolve_left (bne_iff_ne.mp hne)
  have hread : Text.readDigits 16 false 0 (body.filter (· != '-')) = some g.bits.toNat := by
    rw [Text.readDigits_eitherCase hbody fun c => Text.exists_of_mem_hexDigits]
    exact Text.readDigits_hexDigits g.bits.isLt
  rw [hstrip, read?, read, digitsOf_of_dressed hbody hdressed, if_pos hlength,
    Text.readInteger_of_mem_hexAlphabet halphabet, hread]
  show some (ofNat g.bits.toNat) = some g
  rw [ofNat, BitVec.ofNat_toNat, BitVec.setWidth_eq]

/-! ### The written form -/

/-- Five groups of small hexadecimal digits between hyphens: of eight, four, four, four and twelve. -/
structure IsGrouped (s : String) : Prop where
  lengths : (s.toList.splitOn '-').map List.length = [8, 4, 4, 4, 12]
  small : ∀ group ∈ s.toList.splitOn '-', ∀ c ∈ group, c ∈ "0123456789abcdef".toList

/-- A small hexadecimal digit is one of a value. -/
theorem exists_of_mem_smallDigits {c : Char} (h : c ∈ "0123456789abcdef".toList) :
    ∃ d < 16, c = Text.hexDigit d :=
  Text.of_mem_of_all (p := fun c => ∃ d < 16, c = Text.hexDigit d) (by decide) h

/-- The groups in which digits are written. -/
def groups (ds : List Char) : List (List Char) :=
  [ds.take 8, (ds.drop 8).take 4, (ds.drop 12).take 4, (ds.drop 16).take 4, ds.drop 20]

theorem grouped_eq_intercalate (ds : List Char) : grouped ds = ['-'].intercalate (groups ds) := by
  simp [grouped, groups, List.intercalate, List.intersperse]

theorem groups_subset {ds group : List Char} (h : group ∈ groups ds) : group ⊆ ds := by
  have hmiddle (k : Nat) : (ds.drop k).take 4 ⊆ ds :=
    fun _ hc => List.mem_of_mem_drop (List.mem_of_mem_take hc)
  have hall : ∀ group ∈ groups ds, group ⊆ ds := by
    simp only [groups, List.forall_mem_cons]
    exact ⟨List.take_subset _ _, hmiddle 8, hmiddle 12, hmiddle 16, List.drop_subset _ _, nofun⟩
  exact hall group h

/-- Digits that are groups one after the other are put into these groups. -/
theorem groups_append {a b c d e : List Char}
    (h : [a, b, c, d, e].map List.length = [8, 4, 4, 4, 12]) :
    groups (a ++ (b ++ (c ++ (d ++ e)))) = [a, b, c, d, e] := by
  simp only [List.map_cons, List.map_nil, List.cons.injEq, and_true] at h
  obtain ⟨ha, hb, hc, hd, -⟩ := h
  rw [groups, List.take_left' ha, List.drop_left' ha]
  simp (disch := omega) [List.drop_append, List.drop_of_length_le, ha, hb, hc, List.take_left' hd,
    List.drop_left' hd, List.take_left' hb, List.take_left' hc]

theorem isGrouped_text (g : Guid) : IsGrouped g.text := by
  have hsplit : g.text.toList.splitOn '-' = groups g.digits := by
    rw [text, String.toList_ofList, grouped_eq_intercalate]
    refine List.splitOn_intercalate '-' (fun group hgroup hhyphen => ?_) (by simp [groups])
    exact (mem_alphabet_of_mem_digits (groups_subset hgroup hhyphen)).2 rfl
  refine ⟨?_, ?_⟩
  · rw [hsplit]
    simp [groups, digits]
  · rw [hsplit]
    intro group hgroup c hc
    obtain ⟨d, hd, rfl⟩ := Text.exists_of_mem_hexDigits (groups_subset hgroup hc)
    have hall : ∀ d < 16, Text.hexDigit d ∈ "0123456789abcdef".toList := by decide
    exact hall d hd

/-- Digits that are enough for an identifier are those of one. -/
theorem exists_digits_eq {ds : List Char} (hlength : ds.length = 32)
    (hdigits : ∀ c ∈ ds, ∃ d < 16, c = Text.hexDigit d) : ∃ g : Guid, g.digits = ds := by
  obtain ⟨n, hn, hwritten⟩ := Text.exists_hexDigits hdigits
  rw [hlength] at hn hwritten
  have hbits : (ofNat n).bits.toNat = n := by
    rw [ofNat, BitVec.toNat_ofNat]
    exact Nat.mod_eq_of_lt hn
  exact ⟨ofNat n, by rw [digits, hbits, hwritten]⟩

theorem IsGrouped.exists_text {s : String} (h : IsGrouped s) : ∃ g : Guid, s = g.text := by
  obtain ⟨hlengths, hsmall⟩ := h
  have hjoined : ['-'].intercalate (s.toList.splitOn '-') = s.toList :=
    List.intercalate_splitOn '-'
  generalize s.toList.splitOn '-' = parts at hlengths hsmall hjoined
  obtain ⟨a, rest, rfl⟩ : ∃ a rest, parts = a :: rest := by
    cases parts with
    | nil => cases hlengths
    | cons a rest => exact ⟨a, rest, rfl⟩
  obtain ⟨b, c, d, e, rfl⟩ : ∃ b c d e, rest = [b, c, d, e] :=
    List.length_eq_four.mp (by simpa using congrArg List.length hlengths)
  have hlength : (a ++ (b ++ (c ++ (d ++ e)))).length = 32 := by
    simp only [List.map_cons, List.map_nil, List.cons.injEq, and_true] at hlengths
    simp only [List.length_append]
    omega
  obtain ⟨g, hg⟩ := exists_digits_eq hlength fun x hx => by
    have hpart : ∃ part ∈ [a, b, c, d, e], x ∈ part := by simpa using hx
    obtain ⟨part, hpart, hx⟩ := hpart
    exact exists_of_mem_smallDigits (hsmall part hpart x hx)
  refine ⟨g, ?_⟩
  rw [text, ← digits, hg, grouped_eq_intercalate, groups_append hlengths, hjoined,
    String.ofList_toList]

/-- **The texts of the shape are the written forms.** -/
theorem isGrouped_iff {s : String} : IsGrouped s ↔ ∃ g : Guid, s = g.text := by
  constructor
  · exact IsGrouped.exists_text
  · rintro ⟨g, rfl⟩
    exact g.isGrouped_text

end Guid

end PsetCompiler
