import PsetCompiler.Proofs.Definition.Shape
import PsetCompiler.Proofs.Text.Digit
import PsetCompiler.Proofs.Text.Split

/-!
# Applicable type values

One cut reads all notations of an applicable type value.  Here the notations are data, and what is
read from the text of one is what it was made of: the entity with its predefined type, or the
classes of a list.  A mark in front changes nothing, and a material has no predefined type.

## Main definitions

* `IsWord` — what an entity, an attribute or a predefined type is spelled with.
* `TypePart` — the notations of a predefined type behind an entity.
* `ListedClass`, `listText` — the classes of a list with the white space around them.
* `ApplicableType.ofParts` — what is read from the trimmed parts of a value.

## Main results

* `parseApplicableType_text` — a value is read by its parts, whatever stands in front of it.
* `listedNames_listText` — a list is read class by class.
* `parseApplicableType_grammar` — **what is read from a value is what it was made of.**
-/

namespace PsetCompiler


/-! ### Notations -/

/-- A word of an applicable type value: it is trimmed, and no mark of the notations is in it. -/
structure IsWord (w : String) : Prop extends IsTrimmed w where
  plain : ∀ c ∈ w.toList, c ∉ ['/', '.', '=', ',', '\\', '"']

instance (w : String) : Decidable (IsWord w) :=
  decidable_of_iff
    ((w ≠ "" ∧ Text.strip w = w) ∧
      (w.toList.all fun c => decide (c ∉ ['/', '.', '=', ',', '\\', '"'])) = true)
    ⟨fun h => ⟨⟨h.1.1, h.1.2⟩, fun _ => Text.of_mem_of_all h.2⟩,
      fun h => ⟨⟨h.filled, h.strip_eq⟩,
        List.all_eq_true.mpr fun c hc => decide_eq_true (h.plain c hc)⟩⟩

/-- The predefined type behind an entity: there is none, it stands behind a stroke, or it is the
value that an attribute is said to have. -/
inductive TypePart where
  | absent
  | stroke (type : String)
  | literal (key type : String)

namespace TypePart

/-- How it is written. -/
def text : TypePart → String
  | absent => ""
  | stroke type => "/" ++ type
  | literal key type => "." ++ key ++ "=\"" ++ type ++ "\""

/-- The predefined type itself. -/
def type? : TypePart → Option String
  | absent => none
  | stroke type => some type
  | literal _ type => some type

/-- It is spelled with words. -/
def IsSpelled : TypePart → Prop
  | absent => True
  | stroke type => IsWord type
  | literal key type => IsWord key ∧ IsWord type

end TypePart

/-- A class of a list, with what stands around it. -/
structure ListedClass where
  before : String := ""
  word : String
  after : String := ""

namespace ListedClass

/-- How it is written. -/
def text (c : ListedClass) : String :=
  c.before ++ c.word ++ c.after

/-- It is a word with white space around it. -/
structure IsSpelled (c : ListedClass) : Prop where
  before : Text.isBlankText c.before = true
  word : IsWord c.word
  after : Text.isBlankText c.after = true

instance (c : ListedClass) : Decidable c.IsSpelled :=
  decidable_of_iff (Text.isBlankText c.before = true ∧ IsWord c.word ∧
    Text.isBlankText c.after = true) ⟨fun h => ⟨h.1, h.2.1, h.2.2⟩, fun h => ⟨h.1, h.2, h.3⟩⟩

end ListedClass

/-- Classes joined by commas. -/
def listText (classes : List ListedClass) : String :=
  ",".intercalate (classes.map (·.text))

/-- The characters that cut a value. -/
def isTypeMark (c : Char) : Bool :=
  c = '/' ∨ c = '.' ∨ c = '='

/-- A text that holds the entity of a value, or a list of them. -/
def IsFront (s : String) : Prop :=
  ∀ c ∈ s.toList, c ∉ ['/', '.', '=', '\\', '"']

/-- What no mark of the notations is in is such a text. -/
theorem isFront_of_notMem {s : String}
    (h : ∀ c ∈ s.toList, c ∉ ['/', '.', '=', ',', '\\', '"']) : IsFront s := by
  intro c hc hmark
  refine h c hc ?_
  simp only [List.mem_cons, List.not_mem_nil, or_false] at hmark ⊢
  tauto

namespace IsWord

variable {w : String}

theorem notMem (h : IsWord w) {c : Char} (hc : c ∈ ['/', '.', '=', ',', '\\', '"']) :
    c ∉ w.toList :=
  fun hmem => h.plain c hmem hc

theorem isFront (h : IsWord w) : IsFront w :=
  isFront_of_notMem h.plain

end IsWord

/-! ### Parts -/

theorem isTypeMark_eq_false {s : String} (h : IsFront s) : ∀ c ∈ s.toList, isTypeMark c = false := by
  intro c hc
  have hplain := h c hc
  simp only [List.mem_cons, List.not_mem_nil, or_false, not_or] at hplain
  simp [isTypeMark, hplain]

/-- No mark is white space. -/
theorem isTypeMark_of_isBlank (c : Char) (h : Text.isBlank c = true) : isTypeMark c = false := by
  rw [isTypeMark, decide_eq_false_iff_not]
  rintro (rfl | rfl | rfl) <;> exact absurd h (by decide)

/-- White space around the part with the predefined type does not matter. -/
theorem predefinedPart_strip (part : String) :
    predefinedPart (Text.strip part) = predefinedPart part := by
  have hflat (s : String) : Text.replaceAll "\"" "" s =
      String.ofList (s.toList.flatMap fun c => if c = '"' then [] else [c]) :=
    congrArg String.ofList (Text.replaceFrom_singleton '"' [] s.toList)
  have hblank {s : String} (h : Text.isBlankText s = true) :
      Text.isBlankText (Text.replaceAll "\"" "" s) = true := by
    rw [Text.isBlankText, List.all_eq_true] at h ⊢
    intro c hc
    rw [hflat, String.toList_ofList, List.mem_flatMap] at hc
    obtain ⟨d, hd, hc⟩ := hc
    split at hc
    · cases hc
    · rw [List.mem_singleton.mp hc]
      exact h d hd
  obtain ⟨before, after, hbefore, hafter, hpart⟩ := Text.exists_around_strip part
  have hreplaced : Text.replaceAll "\"" "" part = Text.replaceAll "\"" "" before ++
      Text.replaceAll "\"" "" (Text.strip part) ++ Text.replaceAll "\"" "" after := by
    conv_lhs => rw [hpart]
    simp [hflat, String.append_assoc]
  rw [predefinedPart, predefinedPart, hreplaced,
    Text.strip_around (hblank hbefore) (hblank hafter)]

theorem predefinedPart_of_isWord {w : String} (h : IsWord w) : predefinedPart w = some w := by
  have hcommas : ∀ c ∈ w.toList, decide (c = ',') = false := fun c hc =>
    decide_eq_false fun heq => h.notMem (by decide) (heq ▸ hc)
  rw [predefinedPart, Text.replaceAll_eq_self (c := '"') (by decide) (h.notMem (by decide)),
    h.strip_eq, Text.trimEndBy_eq_self hcommas, String.ofList_toList, filled, if_neg h.filled]

theorem predefinedPart_quoted {w : String} (h : IsWord w) :
    predefinedPart ("\"" ++ w ++ "\"") = some w := by
  have hbare : Text.replaceAll "\"" "" ("\"" ++ w ++ "\"") = Text.replaceAll "\"" "" w := by
    simp [Text.replaceAll, Text.replaceFrom_singleton]
  rw [← predefinedPart_of_isWord h, predefinedPart, hbare, predefinedPart]

/-- What is read from the trimmed parts of a value. -/
def ApplicableType.ofParts : List String → ApplicableType
  | [] => {}
  | entity :: others =>
    { applicableType := filled entity
      predefinedType :=
        if Text.foldCase entity = "ifcmaterial" then none else others.getLast?.bind predefinedPart
      extraClasses := if entity.toList.contains ',' then listedNames entity else [] }

/-- A value that says something is read by its trimmed parts. -/
theorem parseApplicableType_eq (raw : String) :
    parseApplicableType raw =
      if Text.strip raw = "" ∨ Text.upper (Text.strip raw) = "N/A" then {}
      else .ofParts
        ((Text.split isTypeMark (Text.replaceAll "SELF\\" "" (Text.strip raw))).map
          Text.strip) := by
  have hmark : (fun c => decide (c = '/' ∨ c = '.' ∨ c = '=')) = isTypeMark := rfl
  simp only [parseApplicableType, hmark]
  split
  · rfl
  cases hparts : Text.split isTypeMark (Text.replaceAll "SELF\\" "" (Text.strip raw)) with
  | nil => rfl
  | cons first others =>
    have hlast : (others.map Text.strip).getLast?.bind predefinedPart =
        others.getLast?.bind predefinedPart := by
      rw [List.getLast?_map, Option.bind_map]
      refine Option.bind_congr fun part _ => ?_
      rw [Function.comp_apply, predefinedPart_strip]
    simp only [List.map_cons, ApplicableType.ofParts, hlast]

/-! ### Values -/

/-- A mark in front and white space around do not matter for the parts. -/
theorem map_strip_split_unmarked {mark s : String} (hmark : mark ∈ ["", "SELF\\"])
    (h : '\\' ∉ s.toList) (hne : Text.strip s ≠ "") :
    (Text.split isTypeMark (Text.replaceAll "SELF\\" "" (Text.strip (mark ++ s)))).map Text.strip =
      (Text.split isTypeMark s).map Text.strip := by
  have hstrip : '\\' ∉ (Text.strip s).toList := fun hmem => h (Text.mem_of_mem_strip hmem)
  simp only [List.mem_cons, List.not_mem_nil, or_false] at hmark
  rcases hmark with rfl | rfl
  · rw [String.empty_append, Text.replaceAll_eq_self (c := '\\') (by decide) hstrip,
      Text.map_strip_split_strip isTypeMark_of_isBlank]
  · obtain ⟨before, after, hbefore, hafter, hs⟩ := Text.exists_around_strip s
    -- behind the mark only the end is trimmed
    have hself : Text.strip ("SELF\\" ++ before ++ Text.strip s) =
        "SELF\\" ++ before ++ Text.strip s :=
      Text.strip_append_strip (c := 'S') rfl (by decide) hne before
    have hmarked : "SELF\\" ++ s = "" ++ ("SELF\\" ++ before ++ Text.strip s) ++ after := by
      conv_lhs => rw [hs]
      simp only [String.empty_append, String.append_assoc]
    have htrim : Text.strip ("SELF\\" ++ s) = "SELF\\" ++ (before ++ Text.strip s) := by
      rw [hmarked, Text.strip_around rfl hafter, hself, String.append_assoc]
    have hplain : '\\' ∉ (before ++ Text.strip s).toList := by
      intro hmem
      refine h ?_
      rw [hs, String.toList_append]
      exact List.mem_append_left _ hmem
    rw [htrim, Text.replaceAll_append (by decide), String.empty_append,
      Text.replaceAll_eq_self (c := '\\') (by decide) hplain]
    rw [← String.append_empty (s := before ++ Text.strip s),
      Text.map_strip_split_around isTypeMark_of_isBlank hbefore rfl,
      Text.map_strip_split_strip isTypeMark_of_isBlank]

/-- The parts of an entity and what stands behind it. -/
theorem exists_parts {front : String} {tail : TypePart} (hfront : IsFront front)
    (htail : tail.IsSpelled) :
    ∃ others, (Text.split isTypeMark (front ++ tail.text)).map Text.strip =
        Text.strip front :: others ∧
      others.getLast?.bind predefinedPart = tail.type? := by
  have hcut := isTypeMark_eq_false hfront
  cases tail with
  | absent =>
    refine ⟨[], ?_, rfl⟩
    rw [TypePart.text, String.append_empty, Text.split_eq_singleton hcut, List.map_singleton]
  | stroke type =>
    refine ⟨[type], ?_, ?_⟩
    · rw [TypePart.text, ← String.append_assoc, Text.split_append_cons hcut (c := '/') rfl rfl,
        Text.split_eq_singleton (isTypeMark_eq_false htail.isFront), List.map_cons,
        List.map_singleton, htail.strip_eq]
    · rw [List.getLast?_singleton, Option.bind_some, predefinedPart_of_isWord htail, TypePart.type?]
  | literal key type =>
    obtain ⟨hkey, htype⟩ := htail
    have hquoted : ∀ c ∈ ("\"" ++ type ++ "\"").toList, isTypeMark c = false := by
      have hplain := isTypeMark_eq_false htype.isFront
      intro c hc
      simp only [String.toList_append, List.mem_append] at hc
      rcases hc with (hc | hc) | hc
      · rw [List.mem_singleton.mp hc]; rfl
      · exact hplain c hc
      · rw [List.mem_singleton.mp hc]; rfl
    have htext : front ++ (TypePart.literal key type).text =
        front ++ "." ++ (key ++ "=" ++ ("\"" ++ type ++ "\"")) := by
      simp only [TypePart.text, String.append_assoc]
      rfl
    refine ⟨[key, Text.strip ("\"" ++ type ++ "\"")], ?_, ?_⟩
    · rw [htext, Text.split_append_cons hcut (c := '.') rfl rfl,
        Text.split_append_cons (isTypeMark_eq_false hkey.isFront) (c := '=') rfl rfl,
        Text.split_eq_singleton hquoted]
      simp only [List.map_cons, List.map_nil, hkey.strip_eq]
    · rw [List.getLast?_cons_cons, List.getLast?_singleton, Option.bind_some, predefinedPart_strip,
        predefinedPart_quoted htype, TypePart.type?]

theorem notMem_text {tail : TypePart} (h : tail.IsSpelled) : '\\' ∉ tail.text.toList := by
  cases tail with
  | absent => exact List.not_mem_nil
  | stroke type => simpa [TypePart.text] using IsWord.notMem h (c := '\\') (by decide)
  | literal key type =>
    have hkey := h.1.notMem (c := '\\') (by decide)
    have htype := h.2.notMem (c := '\\') (by decide)
    simp [TypePart.text, hkey, htype]

/-- A value is read by its parts, whatever mark stands in front of it, unless it is the note that
there is none. -/
theorem parseApplicableType_text {mark front : String} {tail : TypePart}
    (hmark : mark ∈ ["", "SELF\\"]) (hfront : IsFront front) (hne : Text.strip front ≠ "")
    (htail : tail.IsSpelled) :
    ∃ others, others.getLast?.bind predefinedPart = tail.type? ∧
      parseApplicableType (mark ++ (front ++ tail.text)) =
        if Text.upper (Text.strip (mark ++ (front ++ tail.text))) = "N/A" then {}
        else .ofParts (Text.strip front :: others) := by
  obtain ⟨others, hparts, hlast⟩ := exists_parts hfront htail
  have hplain : '\\' ∉ (front ++ tail.text).toList := by
    rw [String.toList_append, List.mem_append, not_or]
    exact ⟨fun hmem => hfront _ hmem (by decide), notMem_text htail⟩
  have hfilled (start rest : String) : Text.strip (start ++ (front ++ rest)) ≠ "" := by
    rw [ne_eq, Text.strip_eq_empty_iff, Bool.not_eq_true] at hne ⊢
    rw [Text.isBlankText_append, Text.isBlankText_append, hne, Bool.false_and, Bool.and_false]
  have hbare := hfilled "" tail.text
  rw [String.empty_append] at hbare
  refine ⟨others, hlast, ?_⟩
  rw [parseApplicableType_eq, map_strip_split_unmarked hmark hplain hbare, hparts]
  exact if_congr (or_iff_right (hfilled mark tail.text)) rfl rfl

/-- A text with a capital or a mark that the note lacks is not the note. -/
theorem upper_strip_ne {s : String} {c : Char} (hc : c ∈ s.toList) (hblank : Text.isBlank c = false)
    (hupper : Text.upperChar c = [c]) (hnot : c ∉ "N/A".toList) :
    Text.upper (Text.strip s) ≠ "N/A" := by
  intro h
  have hmem : c ∈ (Text.upper (Text.strip s)).toList := by
    rw [Text.upper, String.toList_ofList, List.mem_flatMap]
    exact ⟨c, Text.mem_strip hc hblank, hupper ▸ List.mem_singleton_self c⟩
  rw [h] at hmem
  exact hnot hmem

/-! ### Lists -/

theorem listedNames_strip (s : String) : listedNames (Text.strip s) = listedNames s := by
  have hcomma : ∀ c, Text.isBlank c = true → decide (c = ',') = false := by
    intro c hc
    rw [decide_eq_false_iff_not]
    rintro rfl
    exact absurd hc (by decide)
  rw [listedNames, Text.map_strip_split_strip hcomma, listedNames]

variable {classes : List ListedClass}

theorem notMem_text_of_isSpelled {c : ListedClass} (h : c.IsSpelled) {d : Char}
    (hmark : d ∈ ['/', '.', '=', ',', '\\', '"']) : d ∉ c.text.toList := by
  have hd : Text.isBlank d = false :=
    Text.of_mem_of_all (p := (Text.isBlank · = false)) (by decide) hmark
  have hblank {s : String} (hs : Text.isBlankText s = true) : d ∉ s.toList := by
    intro hmem
    rw [← Bool.not_eq_false] at hs
    refine hs ?_
    exact List.all_eq_false.mpr ⟨d, hmem, Bool.not_eq_true _ ▸ hd⟩
  simp [ListedClass.text, hblank h.before, hblank h.after, h.word.notMem hmark]

theorem toList_listText (classes : List ListedClass) :
    (listText classes).toList = [','].intercalate (classes.map fun c => c.text.toList) := by
  rw [listText, String.toList_intercalate, List.map_map]
  rfl

/-- A list is read class by class. -/
theorem listedNames_listText (h : ∀ c ∈ classes, c.IsSpelled) (hne : classes ≠ []) :
    listedNames (listText classes) = classes.map (·.word) := by
  have hsplit : Text.split (· = ',') (listText classes) = classes.map (·.text) := by
    rw [Text.split, Text.splitBy_eq_splitOn, toList_listText, List.splitOn_intercalate]
    · rw [List.map_map]
      exact List.map_congr_left fun c _ => String.ofList_toList
    · rintro _ hmem
      obtain ⟨c, hc, rfl⟩ := List.mem_map.mp hmem
      exact notMem_text_of_isSpelled (h c hc) (by decide)
    · simpa using hne
  have hstrip : (classes.map (·.text)).map Text.strip = classes.map (·.word) := by
    rw [List.map_map]
    refine List.map_congr_left fun c hc => ?_
    have hspelled := h c hc
    exact (Text.strip_around hspelled.before hspelled.after c.word).trans hspelled.word.strip_eq
  rw [listedNames, hsplit, hstrip, List.filter_eq_self]
  rintro _ hmem
  obtain ⟨c, hc, rfl⟩ := List.mem_map.mp hmem
  exact decide_eq_true (h c hc).word.filled

theorem isFront_listText (h : ∀ c ∈ classes, c.IsSpelled) : IsFront (listText classes) := by
  induction classes with
  | nil => exact fun d hd => absurd hd List.not_mem_nil
  | cons c rest ih =>
    rw [List.forall_mem_cons] at h
    have hfront : IsFront c.text :=
      isFront_of_notMem fun d hd hmark => notMem_text_of_isSpelled h.1 hmark hd
    cases rest with
    | nil => rwa [listText, List.map_singleton, String.intercalate_singleton]
    | cons c' rest =>
      rw [listText, List.map_cons, List.map_cons, String.intercalate_cons_cons, ← List.map_cons,
        ← listText]
      intro d hd
      rw [String.toList_append, String.toList_append, List.mem_append, List.mem_append] at hd
      rcases hd with (hd | hd) | hd
      · exact hfront d hd
      · rw [List.mem_singleton.mp hd]
        decide
      · exact ih h.2 d hd

/-- Two classes are parted by a comma. -/
theorem comma_mem_listText (h : 2 ≤ classes.length) : ',' ∈ (listText classes).toList := by
  rcases classes with _ | ⟨c, _ | ⟨c', rest⟩⟩
  · cases h
  · rw [List.length_singleton] at h
    omega
  · rw [toList_listText, List.map_cons, List.map_cons, List.intercalate_cons_cons]
    simp

/-! ### The grammar -/

/-- An entity is read as it is, with its predefined type. -/
theorem parseApplicableType_entity {mark entity : String} {tail : TypePart}
    (hmark : mark ∈ ["", "SELF\\"]) (hentity : IsWord entity)
    (hstart : Text.startsWith "Ifc" entity = true) (hmaterial : Text.foldCase entity ≠ "ifcmaterial")
    (htail : tail.IsSpelled) :
    parseApplicableType (mark ++ (entity ++ tail.text)) = ⟨some entity, tail.type?, []⟩ := by
  obtain ⟨others, hlast, hparse⟩ := parseApplicableType_text hmark hentity.isFront
    (by rw [hentity.strip_eq]; exact hentity.filled) htail
  have hcapital : 'I' ∈ (mark ++ (entity ++ tail.text)).toList := by
    obtain ⟨rest, rfl⟩ := Text.exists_append_of_startsWith hstart
    simp
  have hcomma : entity.toList.contains ',' = false := by
    rw [← Bool.not_eq_true, List.contains_iff_mem]
    exact hentity.notMem (by decide)
  rw [hparse, if_neg (upper_strip_ne hcapital (by decide) (by decide) (by decide)),
    hentity.strip_eq, ApplicableType.ofParts, hlast, filled, if_neg hentity.filled,
    if_neg hmaterial, hcomma]
  rfl

/-- A material has no predefined type. -/
theorem predefinedType_material {mark entity : String} {tail : TypePart}
    (hmark : mark ∈ ["", "SELF\\"]) (hentity : IsWord entity)
    (hmaterial : Text.foldCase entity = "ifcmaterial") (htail : tail.IsSpelled) :
    (parseApplicableType (mark ++ (entity ++ tail.text))).predefinedType = none := by
  obtain ⟨others, -, hparse⟩ := parseApplicableType_text hmark hentity.isFront
    (by rw [hentity.strip_eq]; exact hentity.filled) htail
  rw [hparse, hentity.strip_eq]
  split
  · rfl
  · rw [ApplicableType.ofParts, if_pos hmaterial]

/-- A list is read class by class, with its predefined type. -/
theorem parseApplicableType_list {mark : String} {tail : TypePart}
    (hmark : mark ∈ ["", "SELF\\"]) (hclasses : ∀ c ∈ classes, c.IsSpelled)
    (hlength : 2 ≤ classes.length) (htail : tail.IsSpelled) :
    parseApplicableType (mark ++ (listText classes ++ tail.text)) =
      ⟨some (Text.strip (listText classes)), tail.type?, classes.map (·.word)⟩ := by
  have hcomma := comma_mem_listText hlength
  have hkept : ',' ∈ (Text.strip (listText classes)).toList := Text.mem_strip hcomma (by decide)
  have hne : Text.strip (listText classes) ≠ "" := fun hempty => by
    rw [hempty] at hkept
    cases hkept
  have hmaterial : Text.foldCase (Text.strip (listText classes)) ≠ "ifcmaterial" := by
    intro heq
    have hmem : ',' ∈ (Text.foldCase (Text.strip (listText classes))).toList := by
      rw [Text.foldCase, String.toList_ofList, List.mem_flatMap]
      exact ⟨',', hkept, by decide⟩
    rw [heq] at hmem
    exact absurd hmem (by decide)
  obtain ⟨others, hlast, hparse⟩ :=
    parseApplicableType_text hmark (isFront_listText hclasses) hne htail
  have hmem : ',' ∈ (mark ++ (listText classes ++ tail.text)).toList := by
    simp [hcomma]
  have hnames : listedNames (Text.strip (listText classes)) = classes.map (·.word) := by
    rw [listedNames_strip, listedNames_listText hclasses]
    exact List.ne_nil_of_length_pos (Nat.lt_of_lt_of_le Nat.zero_lt_two hlength)
  rw [hparse, if_neg (upper_strip_ne hmem (by decide) (by decide) (by decide)),
    ApplicableType.ofParts, hlast, filled, if_neg hne, if_neg hmaterial, hnames,
    if_pos (List.contains_iff_mem.mpr hkept)]

/-- **What is read from a value is what it was made of**, whatever mark stands in front of it.  Any
word that is an entity is read as it is, with its predefined type in either notation, and without
classes of a list; a material has no predefined type; and any list of two classes or more is read
class by class, in order, with its predefined type. -/
theorem parseApplicableType_grammar :
    (∀ mark ∈ ["", "SELF\\"], ∀ entity, IsWord entity → ∀ tail : TypePart, tail.IsSpelled →
      (Text.startsWith "Ifc" entity = true → Text.foldCase entity ≠ "ifcmaterial" →
        parseApplicableType (mark ++ (entity ++ tail.text)) = ⟨some entity, tail.type?, []⟩) ∧
      (Text.foldCase entity = "ifcmaterial" →
        (parseApplicableType (mark ++ (entity ++ tail.text))).predefinedType = none)) ∧
    ∀ mark ∈ ["", "SELF\\"], ∀ classes : List ListedClass, 2 ≤ classes.length →
      (∀ c ∈ classes, c.IsSpelled) → ∀ tail : TypePart, tail.IsSpelled →
      parseApplicableType (mark ++ (listText classes ++ tail.text)) =
        ⟨some (Text.strip (listText classes)), tail.type?, classes.map (·.word)⟩ := by
  refine ⟨fun mark hmark entity hentity tail htail => ⟨fun hstart hmaterial => ?_,
    fun hmaterial => ?_⟩, fun mark hmark classes hlength hclasses tail htail => ?_⟩
  · exact parseApplicableType_entity hmark hentity hstart hmaterial htail
  · exact predefinedType_material hmark hentity hmaterial htail
  · exact parseApplicableType_list hmark hclasses hlength htail

/-- Two classes of doors, with blanks around one of them. -/
def doorClasses : List ListedClass :=
  [⟨" ", "IfcDoor", " "⟩, ⟨"", "IfcDoorStyle", ""⟩]

theorem parseApplicableType_grammar_wall :
    parseApplicableType "SELF\\IfcWall.PredefinedType=\"SOLIDWALL\"" =
        ⟨some "IfcWall", some "SOLIDWALL", []⟩ ∧
      (parseApplicableType "IFCMATERIAL/STEEL").predefinedType = none ∧
      parseApplicableType " IfcDoor ,IfcDoorStyle/GATE" =
        ⟨some "IfcDoor ,IfcDoorStyle", some "GATE", ["IfcDoor", "IfcDoorStyle"]⟩ := by
  obtain ⟨hentities, hlists⟩ := parseApplicableType_grammar
  have hword : ∀ w ∈ ["IfcWall", "PredefinedType", "SOLIDWALL", "IFCMATERIAL", "STEEL", "GATE"],
      IsWord w := by decide +kernel
  have hwall := (hentities "SELF\\" (by decide) "IfcWall" (hword _ (by decide))
    (.literal "PredefinedType" "SOLIDWALL")
    ⟨hword _ (by decide), hword _ (by decide)⟩).1 (by decide) (by decide +kernel)
  have hmaterial := (hentities "" (by decide) "IFCMATERIAL" (hword _ (by decide))
    (.stroke "STEEL") (hword _ (by decide))).2 (by decide +kernel)
  have hdoors := hlists "" (by decide) doorClasses (by decide) (by decide +kernel)
    (.stroke "GATE") (hword _ (by decide))
  exact ⟨hwall, hmaterial, hdoors⟩

end PsetCompiler
