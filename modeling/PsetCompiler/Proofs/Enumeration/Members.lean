import PsetCompiler.Enumeration.Block
import PsetCompiler.Proofs.Firsts
import PsetCompiler.Proofs.Outcome
import Mathlib.Data.List.Induction
import Mathlib.Data.List.TakeWhile
import Mathlib.Data.Nat.Digits.Defs

/-!
# Members of enumerations

A value of an enumeration becomes a member unless its spelling is empty or an earlier value has it.
So the members of a block are spelled apart.  Every spelling is an identifier: what no identifier
may hold is an underscore in it, a leading digit has an underscore in front, and where enumerations
are classes a reserved word has one behind it.

A member has a number exactly if its value, without the white space at its ends, is written in
digits alone.  It is the number that these spell in base ten.  A value of too many digits has none,
and with such a value no block is built.

## Main definitions

* `IsIdentifier` — a letter or an underscore with letters, digits and underscores behind it.
* `memberSpelling` — the identifier of the member of a value.
* `NoneOverlong`, `blockOf` — values without such a number, and the block that comes of them.

## Main results

* `isIdentifier_memberSpelling`, `memberSpelling_notMem_reservedWords` — every spelling is legal.
* `value_buildBlock_eq_ok_iff` — which values give a block, and which one.
* `members_blockOf`, `exists_log_buildMembers` — which values become members, and which do not.
* `memberNumber_eq_some_iff` — which values have a number.
* `buildBlock_members_apart` — **the members of a block are legal, and spelled apart.**
-/

namespace PsetCompiler

/-! ### Identifiers -/

/-- An ASCII letter or an underscore. -/
def IsNameStart (c : Char) : Prop :=
  'A' ≤ c ∧ c ≤ 'Z' ∨ 'a' ≤ c ∧ c ≤ 'z' ∨ c = '_'

/-- An identifier: a letter or an underscore with letters, digits and underscores behind it, all of
them ASCII. -/
def IsIdentifier (s : String) : Prop :=
  ∃ first rest, s.toList = first :: rest ∧ IsNameStart first ∧
    ∀ c ∈ rest, IsNameStart c ∨ '0' ≤ c ∧ c ≤ '9'

theorem isNameChar_iff {c : Char} :
    isNameChar c = true ↔ IsNameStart c ∨ '0' ≤ c ∧ c ≤ '9' := by
  simp only [isNameChar, IsNameStart, Bool.or_eq_true, Bool.and_eq_true, decide_eq_true_eq]
  tauto

theorem isAsciiDigit_iff {c : Char} : Text.isAsciiDigit c = true ↔ '0' ≤ c ∧ c ≤ '9' := by
  simp only [Text.isAsciiDigit, Bool.and_eq_true, decide_eq_true_eq]
  rfl

theorem isNameChar_of_mem_nameChars {cs : List Char} {c : Char} (h : c ∈ nameChars cs) :
    isNameChar c = true := by
  obtain ⟨d, -, rfl⟩ := List.mem_map.mp h
  split
  · assumption
  · decide

/-- Characters of identifiers make up an identifier when a leading digit has an underscore in front,
unless there are none. -/
theorem isIdentifier_guardDigit {cs : List Char} (h : ∀ c ∈ cs, isNameChar c = true)
    (hne : cs ≠ []) : IsIdentifier (String.ofList (guardDigit cs)) := by
  unfold IsIdentifier
  rw [String.toList_ofList]
  cases cs with
  | nil => exact absurd rfl hne
  | cons c rest =>
    simp only [isNameChar_iff] at h
    rw [guardDigit]
    split
    · exact ⟨'_', c :: rest, rfl, .inr (.inr rfl), h⟩
    · next hdigit =>
      obtain ⟨hc, hrest⟩ := List.forall_mem_cons.mp h
      exact ⟨c, rest, rfl, hc.resolve_right (mt isAsciiDigit_iff.mpr hdigit), hrest⟩

/-- An underscore behind an identifier. -/
theorem IsIdentifier.append_underscore {s : String} (h : IsIdentifier s) :
    IsIdentifier (s ++ "_") := by
  obtain ⟨first, rest, hs, hfirst, hrest⟩ := h
  refine ⟨first, rest ++ ['_'], ?_, hfirst, ?_⟩
  · rw [String.toList_append, hs]
    rfl
  · intro c hc
    rcases List.mem_append.mp hc with hc | hc
    · exact hrest c hc
    · exact .inl (.inr (.inr (List.mem_singleton.mp hc)))

/-! ### Spellings -/

/-- The identifier of the member of a value. -/
def memberSpelling (language : SourceLanguage) (value : String) : String :=
  (memberIn language value).identifier

@[simp] theorem value_memberIn (language : SourceLanguage) (value : String) :
    (memberIn language value).value = value := by
  unfold memberIn
  dsimp only
  split
  · rfl
  · rfl

@[simp] theorem number_memberIn (language : SourceLanguage) (value : String) :
    (memberIn language value).number = memberNumber (Text.strip value).toList := by
  unfold memberIn
  dsimp only
  rw [Text.toList_strip]
  split
  · rfl
  · rfl

theorem isIdentifier_memberOf {value : String} (h : (memberOf value).identifier ≠ "") :
    IsIdentifier (memberOf value).identifier := by
  refine isIdentifier_guardDigit (fun _ => isNameChar_of_mem_nameChars) fun hnil => h ?_
  rw [memberOf, memberName, hnil]
  rfl

/-- Every spelling is an identifier, unless it is empty. -/
theorem isIdentifier_memberSpelling {language : SourceLanguage} {value : String}
    (h : memberSpelling language value ≠ "") : IsIdentifier (memberSpelling language value) := by
  unfold memberSpelling memberIn at h ⊢
  dsimp only at h ⊢
  split at h
  · next hreserved =>
    rw [if_pos hreserved]
    refine (isIdentifier_memberOf fun hempty => ?_).append_underscore
    -- the empty text is no reserved word
    rw [hempty] at hreserved
    exact absurd hreserved.2 (by decide)
  · next hfree =>
    rw [if_neg hfree]
    exact isIdentifier_memberOf h

/-- No spelling is a reserved word where enumerations are classes. -/
theorem memberSpelling_notMem_reservedWords (value : String) :
    memberSpelling .python value ∉ reservedWords := by
  have hsuffix : ∀ word ∈ reservedWords, word ++ "_" ∉ reservedWords := by decide
  unfold memberSpelling memberIn
  dsimp only
  split
  · next hreserved => exact hsuffix _ (List.contains_iff_mem.mp hreserved.2)
  · next hfree =>
    intro hmem
    exact hfree ⟨rfl, List.contains_iff_mem.mpr hmem⟩

/-! ### Numbers -/

/-- The value of digits, the first of which counts most. -/
theorem decimalValue_eq_ofDigits (cs : List Char) :
    Text.decimalValue cs = Nat.ofDigits 10 (cs.reverse.map fun c => c.toNat - 48) := by
  induction cs using List.reverseRecOn with
  | nil => rfl
  | append_singleton cs c ih =>
    rw [Text.decimalValue, List.foldl_append, ← Text.decimalValue, ih, List.reverse_append,
      List.reverse_singleton, List.singleton_append, List.map_cons, Nat.ofDigits_cons]
    exact (Nat.add_comm _ _).trans (congrArg _ (Nat.mul_comm _ _))

theorem memberNumber_eq_some_iff {cs : List Char} (hne : cs ≠ []) {n : Nat} :
    memberNumber cs = some n ↔
      (∀ c ∈ cs, '0' ≤ c ∧ c ≤ '9') ∧
        n = Nat.ofDigits 10 (cs.reverse.map fun c => c.toNat - 48) := by
  have hdigits : cs.all Text.isAsciiDigit = true ↔ ∀ c ∈ cs, '0' ≤ c ∧ c ≤ '9' := by
    simp only [List.all_eq_true, isAsciiDigit_iff]
  rw [memberNumber, decimalValue_eq_ofDigits, ← hdigits]
  by_cases hall : cs.all Text.isAsciiDigit = true
  · rw [if_pos ⟨hne, hall⟩, Option.some.injEq, and_iff_right hall, eq_comm]
  · rw [if_neg fun h => hall h.2]
    constructor
    · nofun
    · intro h
      exact absurd h.1 hall

/-- A value of white space alone has an empty spelling. -/
theorem strip_ne_nil_of_memberSpelling {language : SourceLanguage} {value : String}
    (h : memberSpelling language value ≠ "") : (Text.strip value).toList ≠ [] := by
  intro hblank
  have hempty : (memberOf value).identifier = "" := by
    rw [Text.toList_strip] at hblank
    rw [memberOf, rawValue, hblank]
    rfl
  refine h ?_
  rw [memberSpelling, memberIn, hempty, if_neg fun hreserved => ?_]
  · exact hempty
  · exact absurd hreserved.2 (by decide)

/-! ### Blocks -/

section

variable (name : String) {language : SourceLanguage} {used : List String} {value : String}

/-- A value is left out if its spelling is empty or used. -/
theorem buildMembers_cons_of_leftOut
    (h : memberSpelling language value = "" ∨ memberSpelling language value ∈ used)
    (rest : List String) :
    buildMembers name language used (value :: rest) =
      ⟨(buildMembers name language used rest).value,
        .skippedItem name value :: (buildMembers name language used rest).log⟩ := by
  rw [← List.contains_iff_mem] at h
  rw [buildMembers]
  exact if_pos h

/-- A value becomes a member otherwise, and its spelling is used from then on. -/
theorem buildMembers_cons_of_kept (hne : memberSpelling language value ≠ "")
    (hnew : memberSpelling language value ∉ used) (rest : List String) :
    buildMembers name language used (value :: rest) =
      ⟨memberIn language value ::
          (buildMembers name language (used ++ [memberSpelling language value]) rest).value,
        (buildMembers name language (used ++ [memberSpelling language value]) rest).log⟩ := by
  have hkept : ¬ (memberSpelling language value = "" ∨
      used.contains (memberSpelling language value)) := by
    rw [List.contains_iff_mem]
    exact not_or.mpr ⟨hne, hnew⟩
  rw [buildMembers]
  exact (if_neg hkept).trans (Report.ext rfl (List.append_nil _))

end

/-- The values with a spelling that is not empty. -/
def spelledValues (language : SourceLanguage) (values : List String) : List String :=
  values.filter (memberSpelling language · ≠ "")

/-- The members of values: the first of every spelling that is neither empty nor used. -/
theorem value_buildMembers (name : String) (language : SourceLanguage) (used values : List String) :
    (buildMembers name language used values).value =
      (firstsBeyond (memberSpelling language) used (spelledValues language values)).map
        (memberIn language) := by
  induction values generalizing used with
  | nil => rfl
  | cons value rest ih =>
    by_cases hempty : memberSpelling language value = ""
    · have hspelled : spelledValues language (value :: rest) = spelledValues language rest :=
        List.filter_cons_of_neg (by simp [hempty])
      rw [buildMembers_cons_of_leftOut name (.inl hempty), hspelled]
      exact ih used
    · have hspelled : spelledValues language (value :: rest) =
          value :: spelledValues language rest := List.filter_cons_of_pos (by simp [hempty])
      rw [hspelled]
      by_cases hused : memberSpelling language value ∈ used
      · rw [buildMembers_cons_of_leftOut name (.inr hused), firstsBeyond_cons_of_mem hused]
        exact ih used
      · rw [buildMembers_cons_of_kept name hempty hused, firstsBeyond_cons_of_notMem hused,
          List.map_cons]
        exact congrArg _ (ih _)

/-- Each value becomes a member or is reported. -/
theorem exists_log_buildMembers (name : String) (language : SourceLanguage)
    (used values : List String) :
    ∃ leftOut, (buildMembers name language used values).log = leftOut.map (.skippedItem name) ∧
      leftOut.Sublist values ∧
      ((buildMembers name language used values).value.map (·.value) ++ leftOut).Perm values := by
  induction values generalizing used with
  | nil => exact ⟨[], rfl, .slnil, .nil⟩
  | cons value rest ih =>
    by_cases hout : memberSpelling language value = "" ∨ memberSpelling language value ∈ used
    · obtain ⟨leftOut, hlog, hsublist, hperm⟩ := ih used
      rw [buildMembers_cons_of_leftOut name hout]
      refine ⟨value :: leftOut, ?_, hsublist.cons_cons value, ?_⟩
      · rw [List.map_cons, ← hlog]
      · exact List.perm_middle.trans (hperm.cons value)
    · rw [not_or] at hout
      obtain ⟨leftOut, hlog, hsublist, hperm⟩ := ih (used ++ [memberSpelling language value])
      rw [buildMembers_cons_of_kept name hout.1 hout.2]
      refine ⟨leftOut, hlog, hsublist.cons value, ?_⟩
      rw [List.map_cons, value_memberIn]
      exact hperm.cons value

/-- No value is a number with too many digits. -/
def NoneOverlong (values : List String) : Prop :=
  ∀ value ∈ values, isOverlong value = false

instance (values : List String) : Decidable (NoneOverlong values) :=
  inferInstanceAs (Decidable (∀ value ∈ values, isOverlong value = false))

/-- The block that comes of values none of which is overlong. -/
def blockOf (name : String) (values : List String) (language : SourceLanguage) : EnumBlock :=
  { name := sourceName name, members := (buildMembers name language [] values).value }

section

variable {name : String} {values : List String} {language : SourceLanguage}

/-- Where no value is overlong the block is built, and what is left out is reported. -/
theorem run_buildBlock (h : NoneOverlong values) :
    (buildBlock name values language).run =
      ⟨.ok (blockOf name values language), (buildMembers name language [] values).log⟩ := by
  have hall : values.takeWhile (!isOverlong ·) = values :=
    List.takeWhile_eq_self_iff.mpr fun value hvalue => by rw [h value hvalue]; rfl
  have hnone : values.find? isOverlong = none :=
    List.find?_eq_none.mpr fun value hvalue => by rw [h value hvalue]; exact Bool.false_ne_true
  rw [buildBlock, hall, hnone]
  exact Report.ext rfl ((Attempt.log_bind_liftM _ _).trans (List.append_nil _))

/-- An overlong value ends the block, with the number of its digits. -/
theorem value_buildBlock_of_overlong {value : String} (h : values.find? isOverlong = some value) :
    (buildBlock name values language).run.value =
      .error (.refusedInputs (.read (rawValue value).length)) := by
  rw [buildBlock, h]
  rfl

/-- A block is built exactly if no value is overlong. -/
theorem value_buildBlock_eq_ok_iff {block : EnumBlock} :
    (buildBlock name values language).run.value = .ok block ↔
      NoneOverlong values ∧ block = blockOf name values language := by
  constructor
  · intro h
    cases hfind : values.find? isOverlong with
    | some value => cases h.symm.trans (value_buildBlock_of_overlong hfind)
    | none =>
      have hnone : NoneOverlong values := fun value hvalue =>
        Bool.eq_false_iff.mpr (List.find?_eq_none.mp hfind value hvalue)
      rw [run_buildBlock hnone] at h
      exact ⟨hnone, (Except.ok.inj h).symm⟩
  · rintro ⟨hnone, rfl⟩
    rw [run_buildBlock hnone]

/-- The members of a block: those of the first values of every spelling that is not empty. -/
theorem members_blockOf :
    (blockOf name values language).members =
      (firstOfEach (memberSpelling language) (spelledValues language values)).map
        (memberIn language) := by
  rw [← firstsBeyond_nil]
  exact value_buildMembers name language [] values

/-- Every member of a block is that of a value with a spelling. -/
theorem exists_of_mem_members {m : EnumMember} (h : m ∈ (blockOf name values language).members) :
    ∃ value, m = memberIn language value ∧ memberSpelling language value ≠ "" := by
  rw [members_blockOf] at h
  obtain ⟨value, hvalue, rfl⟩ := List.mem_map.mp h
  have hspelled : value ∈ spelledValues language values :=
    (firstOfEach_sublist _ _).subset hvalue
  exact ⟨value, rfl, of_decide_eq_true (List.mem_filter.mp hspelled).2⟩

theorem nodup_identifiers_members :
    ((blockOf name values language).members.map (·.identifier)).Nodup := by
  rw [members_blockOf, List.map_map]
  exact nodup_map_firstOfEach _ _

/-- The members of a block keep their values. -/
theorem map_value_members :
    (blockOf name values language).members.map (·.value) =
      firstOfEach (memberSpelling language) (spelledValues language values) := by
  rw [members_blockOf, List.map_map]
  refine (List.map_congr_left fun value _ => ?_).trans (List.map_id _)
  exact value_memberIn language value

end

/-- **The members of a block are legal, and spelled apart.**  Of values none of which has too many
digits a block comes.  Its members are those of the first values of every spelling that is not
empty.  All other values are reported, each once.  A member has a number exactly if its value is
written in digits alone. -/
theorem buildBlock_members_apart (name : String) {values : List String}
    (hvalues : NoneOverlong values) (language : SourceLanguage) :
    ∃ block log, (buildBlock name values language).run = ⟨.ok block, log⟩ ∧
      (block.members.map (·.identifier)).Nodup ∧
      (∀ m ∈ block.members, IsIdentifier m.identifier) ∧
      (language = .python → ∀ m ∈ block.members, m.identifier ∉ reservedWords) ∧
      block.members = (firstOfEach (memberSpelling language) (spelledValues language values)).map
        (memberIn language) ∧
      block.members.map (·.value) =
        firstOfEach (memberSpelling language) (spelledValues language values) ∧
      (∃ leftOut, log = leftOut.map (.skippedItem name) ∧ leftOut.Sublist values ∧
        (block.members.map (·.value) ++ leftOut).Perm values) ∧
      log.length + block.members.length = values.length ∧
      (∀ d ∈ log, d.level = .warning) ∧
      ∀ m ∈ block.members, ∀ n, m.number = some n ↔
        (∀ c ∈ (Text.strip m.value).toList, '0' ≤ c ∧ c ≤ '9') ∧
          n = Nat.ofDigits 10 ((Text.strip m.value).toList.reverse.map fun c => c.toNat - 48) := by
  obtain ⟨leftOut, hlog, hsublist, hperm⟩ := exists_log_buildMembers name language [] values
  refine ⟨_, _, run_buildBlock hvalues, nodup_identifiers_members, ?_, ?_, members_blockOf,
    map_value_members, ⟨leftOut, hlog, hsublist, hperm⟩, ?_, ?_, ?_⟩
  · intro m hm
    obtain ⟨value, rfl, hne⟩ := exists_of_mem_members hm
    exact isIdentifier_memberSpelling hne
  · intro hpython m hm
    obtain ⟨value, rfl, -⟩ := exists_of_mem_members hm
    rw [hpython]
    exact memberSpelling_notMem_reservedWords value
  · have hlength := hperm.length_eq
    rw [List.length_append, List.length_map] at hlength
    rw [hlog, List.length_map, Nat.add_comm]
    exact hlength
  · intro d hd
    rw [hlog] at hd
    obtain ⟨value, -, rfl⟩ := List.mem_map.mp hd
    rfl
  · intro m hm n
    obtain ⟨value, rfl, hne⟩ := exists_of_mem_members hm
    rw [number_memberIn, value_memberIn]
    exact memberNumber_eq_some_iff (strip_ne_nil_of_memberSpelling hne)

/-- Two of five values are left out: one is spelled like the first, one has an empty spelling. -/
theorem buildBlock_members_apart_states :
    NoneOverlong [" 1-A", "1A", "..", "None", "12"] ∧
      ∃ block log,
        (buildBlock "State" [" 1-A", "1A", "..", "None", "12"] .python).run = ⟨.ok block, log⟩ ∧
        block.members =
          [⟨"_1A", " 1-A", none⟩, ⟨"None_", "None", none⟩, ⟨"_12", "12", some 12⟩] ∧
        log.length = 2 := by
  have hvalues : NoneOverlong [" 1-A", "1A", "..", "None", "12"] := by decide
  obtain ⟨block, log, hrun, -, -, -, hmembers, -, -, hlength, -⟩ :=
    buildBlock_members_apart "State" hvalues .python
  have hthree : block.members =
      [⟨"_1A", " 1-A", none⟩, ⟨"None_", "None", none⟩, ⟨"_12", "12", some 12⟩] := by
    rw [hmembers]
    decide
  refine ⟨hvalues, block, log, hrun, hthree, ?_⟩
  rw [hthree] at hlength
  simpa using hlength

end PsetCompiler
