import PsetCompiler.Proofs.Enumeration.Members
import PsetCompiler.Proofs.Source.Name
import PsetCompiler.Proofs.Text.Blank

/-!
# Identifiers as values of enumerations

The values of an enumeration are made into identifiers.  A value that is one already stays as it is:
it has no white space at its ends, nothing in it is left out or becomes an underscore, and it does
not begin with a digit, so it has neither an underscore in front nor a number.  Where enumerations
are classes it must not be a reserved word.

So values that are different identifiers become members one by one, with nothing to report.

## Main definitions

* `IsPlain` — an identifier that is no reserved word.
* `plainMember` — the member that is spelled like its value.

## Main results

* `memberIn_of_isPlain` — a plain value becomes the member that is spelled like it.
* `buildBlock_of_isPlain` — **different plain values become members one by one.**
-/

namespace PsetCompiler

/-- An identifier that is no reserved word. -/
structure IsPlain (value : String) : Prop where
  isIdentifier : IsIdentifier value
  notReserved : value ∉ reservedWords

/-- The member that is spelled like its value. -/
def plainMember (value : String) : EnumMember :=
  { identifier := value, value }

/-! ### Characters of identifiers -/

theorem toNat_of_isNameStart {c : Char} (h : IsNameStart c) : 65 ≤ c.toNat ∧ c.toNat ≤ 122 := by
  have hle {a b : Char} (hab : a ≤ b) : a.toNat ≤ b.toNat := UInt32.le_iff_toNat_le.mp hab
  rcases h with ⟨hfirst, hlast⟩ | ⟨hfirst, hlast⟩ | rfl
  · have hfrom : 65 ≤ c.toNat := hle hfirst
    have hto : c.toNat ≤ 90 := hle hlast
    omega
  · have hfrom : 97 ≤ c.toNat := hle hfirst
    have hto : c.toNat ≤ 122 := hle hlast
    omega
  · decide

theorem toNat_of_isAsciiDigit {c : Char} (h : Text.isAsciiDigit c = true) :
    48 ≤ c.toNat ∧ c.toNat ≤ 57 := by
  obtain ⟨hfirst, hlast⟩ := isAsciiDigit_iff.mp h
  exact ⟨UInt32.le_iff_toNat_le.mp hfirst, UInt32.le_iff_toNat_le.mp hlast⟩

/-- What a name may begin with is no digit. -/
theorem isAsciiDigit_of_isNameStart {c : Char} (h : IsNameStart c) :
    Text.isAsciiDigit c = false := by
  obtain ⟨hfrom, -⟩ := toNat_of_isNameStart h
  rw [Bool.eq_false_iff]
  intro hdigit
  obtain ⟨-, hto⟩ := toNat_of_isAsciiDigit hdigit
  omega

/-- No character of names is white space. -/
theorem isBlank_of_isNameChar {c : Char} (h : isNameChar c = true) : Text.isBlank c = false := by
  have hcode : 48 ≤ c.toNat ∧ c.toNat ≤ 122 := by
    rcases isNameChar_iff.mp h with hstart | hdigit
    · have hrange := toNat_of_isNameStart hstart
      omega
    · have hrange := toNat_of_isAsciiDigit (isAsciiDigit_iff.mpr hdigit)
      omega
  simp only [Text.isBlank, Bool.or_eq_false_iff, Bool.and_eq_false_iff, decide_eq_false_iff_not,
    beq_eq_false_iff_ne]
  omega

/-- No character of names is a point or a hyphen. -/
theorem ne_mark_of_isNameChar {c : Char} (h : isNameChar c = true) : c ≠ '.' ∧ c ≠ '-' := by
  constructor
  · rintro rfl
    exact absurd h (by decide)
  · rintro rfl
    exact absurd h (by decide)

/-! ### Members -/

/-- An identifier is its own identifier, and it has no number. -/
theorem memberOf_of_isIdentifier {value : String} (h : IsIdentifier value) :
    memberOf value = plainMember value := by
  obtain ⟨first, rest, hvalue, hfirst, hrest⟩ := h
  have hchars : ∀ c ∈ value.toList, isNameChar c = true := by
    rw [hvalue, List.forall_mem_cons]
    refine ⟨isNameChar_iff.mpr (.inl hfirst), ?_⟩
    intro c hc
    exact isNameChar_iff.mpr (hrest c hc)
  have hraw : rawValue value = value.toList :=
    Text.trimBy_eq_self fun c hc => isBlank_of_isNameChar (hchars c hc)
  have hmarks : (value.toList.filter fun c => c ≠ '.' && c ≠ '-') = value.toList := by
    rw [List.filter_eq_self]
    intro c hc
    simpa using ne_mark_of_isNameChar (hchars c hc)
  have hname : nameChars value.toList = value.toList := by
    have hsource := congrArg String.toList (sourceName_eq_self hchars)
    rwa [sourceName, String.toList_ofList] at hsource
  have hdigit : Text.isAsciiDigit first = false := isAsciiDigit_of_isNameStart hfirst
  have hguard : guardDigit value.toList = value.toList := by
    rw [hvalue, guardDigit, hdigit]
    rfl
  have hnumber : memberNumber value.toList = none := by
    rw [memberNumber, if_neg]
    rintro ⟨-, hall⟩
    rw [hvalue, List.all_cons, hdigit] at hall
    cases hall
  rw [memberOf, hraw, hnumber, memberName, hmarks, hname, hguard, String.ofList_toList]
  rfl

/-- A plain value becomes the member that is spelled like it, in every language. -/
theorem memberIn_of_isPlain (language : SourceLanguage) {value : String} (h : IsPlain value) :
    memberIn language value = plainMember value := by
  rw [memberIn, memberOf_of_isIdentifier h.isIdentifier, if_neg]
  rintro ⟨-, hreserved⟩
  exact h.notReserved (List.contains_iff_mem.mp hreserved)

theorem memberSpelling_of_isPlain (language : SourceLanguage) {value : String} (h : IsPlain value) :
    memberSpelling language value = value := by
  rw [memberSpelling, memberIn_of_isPlain language h]
  rfl

theorem IsPlain.ne_empty {value : String} (h : IsPlain value) : value ≠ "" := by
  rintro rfl
  obtain ⟨first, rest, hnil, -⟩ := h.isIdentifier
  cases hnil

/-- A plain value is no number, so it is not overlong. -/
theorem IsPlain.isOverlong_eq_false {value : String} (h : IsPlain value) :
    isOverlong value = false := by
  have hnumber : memberNumber (rawValue value) = none :=
    congrArg EnumMember.number (memberOf_of_isIdentifier h.isIdentifier)
  rw [Bool.eq_false_iff]
  intro hoverlong
  rw [isOverlong, Bool.and_eq_true, decide_eq_true_eq] at hoverlong
  have hne : rawValue value ≠ [] := List.ne_nil_of_length_pos (Nat.zero_lt_of_lt hoverlong.2)
  rw [memberNumber, if_pos ⟨hne, hoverlong.1⟩] at hnumber
  cases hnumber

/-! ### Blocks -/

/-- Plain values that are different, and different from the identifiers that are used, become
members one by one. -/
theorem buildMembers_of_isPlain (name : String) (language : SourceLanguage)
    {used values : List String} (hnodup : (used ++ values).Nodup)
    (hplain : ∀ value ∈ values, IsPlain value) :
    buildMembers name language used values = pure (values.map plainMember) := by
  induction values generalizing used with
  | nil => rfl
  | cons value rest ih =>
    rw [List.forall_mem_cons] at hplain
    have hspelling := memberSpelling_of_isPlain language hplain.1
    have hnew : value ∉ used := by
      intro hmem
      exact List.disjoint_of_nodup_append hnodup hmem List.mem_cons_self
    have hne : memberSpelling language value ≠ "" := by
      rw [hspelling]
      exact hplain.1.ne_empty
    have hfree : memberSpelling language value ∉ used := by
      rw [hspelling]
      exact hnew
    rw [List.append_cons] at hnodup
    rw [buildMembers_cons_of_kept name hne hfree, hspelling, ih hnodup hplain.2,
      memberIn_of_isPlain language hplain.1]
    rfl

/-- **Different plain values become members one by one**, with nothing to report. -/
theorem buildBlock_of_isPlain (name : String) {values : List String} (hnodup : values.Nodup)
    (hplain : ∀ value ∈ values, IsPlain value) (language : SourceLanguage) :
    (buildBlock name values language).run =
      pure (.ok { name := sourceName name, members := values.map plainMember }) := by
  have hstart : (([] : List String) ++ values).Nodup := hnodup
  have hmembers := buildMembers_of_isPlain name language hstart hplain
  rw [run_buildBlock fun value hvalue => (hplain value hvalue).isOverlong_eq_false, blockOf,
    hmembers]
  rfl

end PsetCompiler
