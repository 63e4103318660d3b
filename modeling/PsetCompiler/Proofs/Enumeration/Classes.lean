import PsetCompiler.Json.Parser
import PsetCompiler.Proofs.Enumeration.ReadBack
import PsetCompiler.Proofs.Source.Literal
import PsetCompiler.Proofs.Text.Utf16

/-!
# Reading classes back

Where enumerations are classes, every value that is no number is written as a literal.  What a
reader of the module gets for it is a list of code points: characters that stand for themselves,
short escapes, and escapes with two, four or eight hexadecimal digits, each of which denotes one
code point.

The literal is written in ASCII, and what has no short escape takes four digits.  These are enough
for the characters of the basic plane.  Any other character takes two escapes, those of its
surrogates, and a reader of the module does not put them together.  So a literal denotes the units
of its value in UTF-16, and it denotes the value itself exactly if no character lies beyond the
basic plane.

## Main definitions

* `readPoints`, `Denotes` — the code points of a literal, and characters that denote code points.
* `readBodies`, `readClasses` — the classes in the lines of a module, and their members.
* `EnumMember.denoted` — what is read behind the identifier of a member.

## Main results

* `denotes_markupSafe` — a character is written as its units.
* `flatMap_utf16Units_eq_iff` — when the units of a text are its code points.
* `readBodies_pythonBlocks` — the classes of a module are found.
* `readClasses_enumSource` — **what the members of a module denote.**
-/

namespace PsetCompiler

/-! ### Literals -/

/-- What a reader of a literal waits for. -/
inductive LiteralPlace where
  /-- A character, an escape or the closing quote. -/
  | plain
  /-- What stands behind a backslash. -/
  | slash
  /-- One more digit of a code point and then `more` others, where those before spell `value`. -/
  | digits (more value : Nat)

/-- A code point in front of what is read behind it. -/
def pointThen (point : Nat) (r : Option (List Nat × List Char)) : Option (List Nat × List Char) :=
  r.map fun r => (point :: r.1, r.2)

/-- The code points of a literal from behind its opening quote, and what follows its closing quote.
Escapes by octal digits or by the name of a character are refused, and so are line ends. -/
def readPoints : LiteralPlace → List Char → Option (List Nat × List Char)
  | _, [] => none
  | .plain, c :: rest =>
    if c = '"' then some ([], rest)
    else if c = '\\' then readPoints .slash rest
    else if c = '\n' ∨ c = '\r' then none
    else pointThen c.toNat (readPoints .plain rest)
  | .slash, c :: rest =>
    if c = 'x' then readPoints (.digits 1 0) rest
    else if c = 'u' then readPoints (.digits 3 0) rest
    else if c = 'U' then readPoints (.digits 7 0) rest
    else if Text.isAsciiDigit c then none
    else (simpleEscape? c).bind fun d => pointThen d.toNat (readPoints .plain rest)
  | .digits more value, c :: rest =>
    (Json.hexValue? c).bind fun digit =>
      match more with
      | more + 1 => readPoints (.digits more (value * 16 + digit)) rest
      | 0 =>
        if value * 16 + digit < 0x110000 then
          pointThen (value * 16 + digit) (readPoints .plain rest)
        else none

/-- Characters inside of a literal denote code points, whatever follows them. -/
def Denotes (cs : List Char) (points : List Nat) : Prop :=
  ∀ rest, readPoints .plain (cs ++ rest) =
    (readPoints .plain rest).map fun r => (points ++ r.1, r.2)

theorem denotes_nil : Denotes [] [] := by
  intro rest
  show readPoints .plain rest = _
  cases readPoints .plain rest with
  | none => rfl
  | some r => rfl

theorem Denotes.append {cs ds : List Char} {points more : List Nat} (hcs : Denotes cs points)
    (hds : Denotes ds more) : Denotes (cs ++ ds) (points ++ more) := by
  intro rest
  rw [List.append_assoc, hcs, hds, Option.map_map]
  refine congrArg (Option.map · _) (funext fun r => ?_)
  simp

theorem denotes_flatMap {write : Char → List Char} {points : Char → List Nat}
    (h : ∀ c, Denotes (write c) (points c)) (cs : List Char) :
    Denotes (cs.flatMap write) (cs.flatMap points) := by
  induction cs with
  | nil => exact denotes_nil
  | cons c cs ih =>
    rw [List.flatMap_cons, List.flatMap_cons]
    exact (h c).append ih

theorem hexValue?_hexDigit {d : Nat} (h : d < 16) : Json.hexValue? (Text.hexDigit d) = some d := by
  revert d
  decide

/-- Digits are read one by one, and count behind those that were read before. -/
theorem readPoints_hexDigits {width n : Nat} (h : n < 16 ^ width) (more value : Nat)
    (rest : List Char) :
    readPoints (.digits (width + more) value) (Text.hexDigits width n ++ rest) =
      readPoints (.digits more (value * 16 ^ width + n)) rest := by
  induction width generalizing n more rest with
  | zero =>
    have hn : n = 0 := by simpa using h
    subst hn
    rw [Nat.zero_add, Nat.pow_zero, Nat.mul_one, Nat.add_zero]
    rfl
  | succ width ih =>
    rw [Nat.pow_succ] at h
    have hdiv : n / 16 < 16 ^ width := by omega
    have hmod : n % 16 < 16 := Nat.mod_lt n (by decide)
    have hvalue : (value * 16 ^ width + n / 16) * 16 + n % 16 = value * 16 ^ (width + 1) + n := by
      rw [Nat.pow_succ, ← Nat.mul_assoc]
      omega
    -- the last digit is read behind all others
    rw [Text.hexDigits, List.append_assoc, Nat.add_right_comm, Nat.add_assoc, ih hdiv,
      List.singleton_append, readPoints, hexValue?_hexDigit hmod, Option.bind_some]
    dsimp only
    rw [hvalue]

/-- The mark of a unit denotes the unit. -/
theorem denotes_unitMark {unit : Nat} (h : unit < 0x10000) :
    Denotes (Json.unitMark unit) [unit] := by
  intro rest
  have hdiv : unit / 16 < 16 ^ 3 := by omega
  have hmod : unit % 16 < 16 := Nat.mod_lt unit (by decide)
  have hvalue : unit / 16 * 16 + unit % 16 = unit := by omega
  show readPoints (.digits (3 + 0) 0)
    (Text.hexDigits 3 (unit / 16) ++ [Text.hexDigit (unit % 16)] ++ rest) = _
  rw [List.append_assoc, readPoints_hexDigits hdiv, List.singleton_append, readPoints,
    hexValue?_hexDigit hmod, Option.bind_some, Nat.zero_mul, Nat.zero_add]
  dsimp only
  rw [hvalue, if_pos (by omega)]
  rfl

/-- A character that is written as itself denotes itself. -/
theorem denotes_self {c : Char} (hquote : c ≠ '"') (hslash : c ≠ '\\') (hc : ¬ c.toNat < 0x20) :
    Denotes [c] [c.toNat] := by
  intro rest
  have hline : ¬ (c = '\n' ∨ c = '\r') := by
    rintro (rfl | rfl)
    · exact hc (by decide)
    · exact hc (by decide)
  rw [List.singleton_append, readPoints, if_neg hquote, if_neg hslash, if_neg hline]
  rfl

theorem denotes_escapeChar (c : Char) : Denotes (Json.escapeChar c) [c.toNat] := by
  unfold Json.escapeChar
  split
  case h_8 hquote hslash _ _ _ _ _ =>
    split
    · next h => exact denotes_unitMark (by omega)
    · next h => exact denotes_self hquote hslash h
  all_goals
    intro rest
    rfl

/-- **A character is written as its units**: with one mark at most in the basic plane, and with two
beyond it. -/
theorem denotes_markupSafe (c : Char) : Denotes (markupSafe c) (Text.utf16Units c) := by
  have hvalid := Text.isValidChar_toNat c
  unfold markupSafe Json.escapeAscii Text.utf16Units
  by_cases hplane : c.toNat < 0x10000
  · rw [if_pos hplane, if_pos hplane]
    split
    · exact denotes_unitMark hplane
    · split
      · exact denotes_escapeChar c
      · exact denotes_unitMark hplane
  · -- no sign of markup lies beyond the basic plane
    have hmarkup : ¬ (c = '<' ∨ c = '>' ∨ c = '&' ∨ c = '\'') := by
      rintro (rfl | rfl | rfl | rfl)
      all_goals exact hplane (by decide)
    rw [if_neg hmarkup, if_neg (by omega), if_neg hplane, if_neg hplane]
    exact (denotes_unitMark (by omega)).append (denotes_unitMark (by omega))

/-- A literal is read up to its closing quote, and denotes the units of its text. -/
theorem readPoints_markupSafe (cs : List Char) :
    readPoints .plain (cs.flatMap markupSafe ++ ['"']) = some (cs.flatMap Text.utf16Units, []) := by
  rw [denotes_flatMap denotes_markupSafe cs]
  show some (_ ++ [], _) = _
  rw [List.append_nil]

/-- The units of a text are its code points exactly if no character lies beyond the basic plane. -/
theorem flatMap_utf16Units_eq_iff {cs : List Char} :
    cs.flatMap Text.utf16Units = cs.map Char.toNat ↔ ∀ c ∈ cs, c.toNat < 0x10000 := by
  induction cs with
  | nil => exact iff_of_true rfl (List.forall_mem_nil _)
  | cons c cs ih =>
    rw [List.flatMap_cons, List.map_cons, List.forall_mem_cons, ← ih, Text.utf16Units]
    by_cases hc : c.toNat < 0x10000
    · rw [if_pos hc, List.singleton_append, List.cons_inj_right, and_iff_right hc]
    · -- the first unit is a surrogate, and no character has its code point
      rw [if_neg hc]
      constructor
      · intro h
        have hfirst := (List.cons.inj h).1
        have hvalid := Text.isValidChar_toNat c
        omega
      · intro h
        exact absurd h.1 hc

/-! ### The reader -/

/-- What is written behind the identifier of a member: a number, or a literal with its code points.
-/
inductive MemberValue where
  | number (n : Nat)
  | text (points : List Nat)
deriving DecidableEq, Repr

/-- The value that a text spells. -/
def readMemberValue (s : String) : Option MemberValue :=
  match s.toList with
  | '"' :: cs =>
    (readPoints .plain cs).bind fun r => if r.2 = [] then some (.text r.1) else none
  | _ => (readDecimal s).map .number

/-- The identifier and the value of the member that a text spells. -/
def readClassMemberText (text : String) : Option (String × MemberValue) :=
  let (name, rest) := nameAndRest text
  if name = "" then none
  else (name, ·) <$> (afterStart? " = " rest >>= readMemberValue)

/-- The identifier and the value of the member on a line. -/
def readClassMember (line : String) : Option (String × MemberValue) :=
  afterStart? "    " line >>= readClassMemberText

/-- The members on the lines of a class. -/
def readClassBody (lines : List String) : Option (List (String × MemberValue)) :=
  if lines = [] then none
  else if lines = ["    pass"] then some []
  else lines.mapM readClassMember

/-- The name on the first line of a class. -/
def className? (line : String) : Option String :=
  (afterStart? "class " line).bind fun text =>
    let (name, rest) := nameAndRest text
    if rest = "(Enum):" then some name else none

/-- One more line in front of lines that were read: those that belong to a class above, and the
classes with theirs.  An empty line says nothing. -/
def readClassLine (line : String) (read : List String × List RawBlock) :
    Option (List String × List RawBlock) :=
  if line = "" then some read
  else
    match className? line with
    | some name => some ([], ⟨name, read.1⟩ :: read.2)
    | none => if Text.startsWith "    " line then some (line :: read.1, read.2) else none

/-- The lines that belong to a class above, and the classes with theirs. -/
def readBodies : List String → Option (List String × List RawBlock)
  | [] => some ([], [])
  | line :: rest => (readBodies rest).bind (readClassLine line)

/-- The names of the classes in the text of a module, with the identifiers and values of their
members. -/
def readClasses (text : String) : Option (List (String × List (String × MemberValue))) := do
  let (body, classes) ← readBodies (linesIn text)
  if body = [] then classes.mapM fun c => (c.name, ·) <$> readClassBody c.lines
  else none

/-! ### Members -/

/-- What is read behind the identifier of a member. -/
def EnumMember.denoted (m : EnumMember) : MemberValue :=
  match m.number with
  | some n => .number n
  | none => .text (m.value.toList.flatMap Text.utf16Units)

/-- What is written behind the identifier of a member. -/
def EnumMember.written (m : EnumMember) : String :=
  match m.number with
  | some n => toString n
  | none => markupSafeLiteral m.value

theorem readMemberValue_written (m : EnumMember) : readMemberValue m.written = some m.denoted := by
  unfold EnumMember.written EnumMember.denoted
  cases m.number with
  | some n =>
    show readMemberValue (toString n) = _
    unfold readMemberValue
    split
    · next cs h =>
      -- a number does not begin with a quote
      have hquote : '"' ∈ (toString n).toList := h ▸ List.mem_cons_self
      exact absurd (isAsciiDigit_of_mem_toString hquote) (by decide)
    · rw [readDecimal_toString]
      rfl
  | none =>
    show readMemberValue (markupSafeLiteral m.value) = _
    unfold readMemberValue markupSafeLiteral
    rw [String.toList_ofList]
    show (readPoints .plain (m.value.toList.flatMap markupSafe ++ ['"'])).bind _ = _
    rw [readPoints_markupSafe]
    rfl

theorem pythonMemberLine_eq (m : EnumMember) :
    pythonMemberLine m = "    " ++ (m.identifier ++ (" = " ++ m.written)) := by
  rw [pythonMemberLine, String.append_assoc, String.append_assoc]
  rfl

/-- A member is read from its line. -/
theorem readClassMember_pythonMemberLine {m : EnumMember} (h : m.IsSpelled) :
    readClassMember (pythonMemberLine m) = some (m.identifier, m.denoted) := by
  -- the blank behind the identifier ends it
  have hblank : (" = " ++ m.written).toList.takeWhile isNameChar = [] := by
    rw [String.toList_append]
    rfl
  rw [readClassMember, pythonMemberLine_eq, afterStart?_append]
  show readClassMemberText (m.identifier ++ (" = " ++ m.written)) = _
  rw [readClassMemberText, nameAndRest_append h.isNameChar hblank]
  dsimp only
  rw [if_neg h.ne_empty, afterStart?_append]
  show (m.identifier, ·) <$> readMemberValue m.written = _
  rw [readMemberValue_written]
  rfl

/-- The members of a class are read from their lines, all in order. -/
theorem mapM_readClassMember {members : List EnumMember} (h : ∀ m ∈ members, m.IsSpelled) :
    (members.map pythonMemberLine).mapM readClassMember =
      some (members.map fun m => (m.identifier, m.denoted)) := by
  induction members with
  | nil => rfl
  | cons m members ih =>
    rw [List.forall_mem_cons] at h
    rw [List.map_cons, List.mapM_cons, readClassMember_pythonMemberLine h.1, ih h.2]
    rfl

/-! ### Lines -/

/-- No line ends inside of a literal. -/
theorem newline_notMem_markupSafe (c : Char) : '\n' ∉ markupSafe c := by
  have hdigits (width n : Nat) : '\n' ∉ Text.hexDigits width n := by
    intro h
    obtain ⟨d, hd, heq⟩ := Text.exists_of_mem_hexDigits h
    revert d
    decide
  have hmark (unit : Nat) : '\n' ∉ Json.unitMark unit := by
    simp [Json.unitMark, hdigits]
  have hescape : '\n' ∉ Json.escapeChar c := by
    unfold Json.escapeChar
    split
    case h_8 hline _ _ =>
      split
      · exact hmark _
      · simpa using fun h => hline h.symm
    all_goals decide
  unfold markupSafe Json.escapeAscii
  split
  · exact hmark _
  · split
    · exact hescape
    · split
      · exact hmark _
      · simp [hmark]

theorem newline_notMem_written (m : EnumMember) : '\n' ∉ m.written.toList := by
  unfold EnumMember.written
  cases m.number with
  | some n =>
    intro h
    exact absurd (isAsciiDigit_of_mem_toString h) (by decide)
  | none =>
    show '\n' ∉ (markupSafeLiteral m.value).toList
    rw [markupSafeLiteral, String.toList_ofList]
    simp [newline_notMem_markupSafe]

/-! ### Classes -/

/-- A class with the lines of its members, as they are written. -/
def EnumBlock.rawClass (b : EnumBlock) : RawBlock :=
  ⟨b.name, if b.members.isEmpty then ["    pass"] else b.members.map pythonMemberLine⟩

theorem exists_of_mem_rawClass {b : EnumBlock} {line : String} (h : line ∈ b.rawClass.lines) :
    line = "    pass" ∨ ∃ m ∈ b.members, line = pythonMemberLine m := by
  unfold EnumBlock.rawClass at h
  dsimp only at h
  split at h
  · exact .inl (List.mem_singleton.mp h)
  · obtain ⟨m, hm, rfl⟩ := List.mem_map.mp h
    exact .inr ⟨m, hm, rfl⟩

/-- The lines of members are indented. -/
theorem exists_append_of_mem_rawClass {b : EnumBlock} {line : String}
    (h : line ∈ b.rawClass.lines) : ∃ s, line = "    " ++ s := by
  rcases exists_of_mem_rawClass h with rfl | ⟨m, -, rfl⟩
  · exact ⟨"pass", by decide⟩
  · exact ⟨_, pythonMemberLine_eq m⟩

/-- The members of a class are read from their lines. -/
theorem readClassBody_rawClass {b : EnumBlock} (h : b.IsSpelled) :
    readClassBody b.rawClass.lines = some (b.members.map fun m => (m.identifier, m.denoted)) := by
  have hmembers := h.members
  unfold EnumBlock.rawClass
  generalize b.members = members at hmembers
  cases members with
  | nil => rfl
  | cons m members =>
    -- no member is written like the line of a class without members
    have hpass : pythonMemberLine m :: members.map pythonMemberLine ≠ ["    pass"] := by
      intro heq
      have hread := readClassMember_pythonMemberLine (List.forall_mem_cons.mp hmembers).1
      have hnone : readClassMember "    pass" = none := by decide
      rw [(List.cons.inj heq).1, hnone] at hread
      cases hread
    show readClassBody (pythonMemberLine m :: members.map pythonMemberLine) = _
    rw [readClassBody, if_neg (List.cons_ne_nil _ _), if_neg hpass, ← List.map_cons,
      mapM_readClassMember hmembers]

theorem mapM_readClassBody {blocks : List EnumBlock} (h : ∀ b ∈ blocks, b.IsSpelled) :
    ((blocks.map EnumBlock.rawClass).mapM fun c => (c.name, ·) <$> readClassBody c.lines) =
      some (blocks.map fun b => (b.name, b.members.map fun m => (m.identifier, m.denoted))) := by
  induction blocks with
  | nil => rfl
  | cons b blocks ih =>
    rw [List.forall_mem_cons] at h
    rw [List.map_cons, List.mapM_cons, readClassBody_rawClass h.1, ih h.2]
    rfl

theorem className?_firstLine {b : EnumBlock} (h : b.IsSpelled) :
    className? ("class " ++ b.name ++ "(Enum):") = some b.name := by
  have hend : "(Enum):".toList.takeWhile isNameChar = [] := by decide
  rw [className?, String.append_assoc, afterStart?_append, Option.bind_some,
    nameAndRest_append h.isNameChar hend]
  rfl

/-- Indented lines belong to the class above them. -/
theorem readBodies_indented {lines rest : List String} {classes : List RawBlock}
    (h : ∀ line ∈ lines, ∃ s, line = "    " ++ s) (hrest : readBodies rest = some ([], classes)) :
    readBodies (lines ++ rest) = some (lines, classes) := by
  induction lines with
  | nil => exact hrest
  | cons line lines ih =>
    rw [List.forall_mem_cons] at h
    obtain ⟨s, rfl⟩ := h.1
    have hfilled : "    " ++ s ≠ "" := by simp [String.append_eq_empty_iff]
    have hclass : className? ("    " ++ s) = none := by
      have hapart : Text.startsWith "class " ("    " ++ s) = false :=
        startsWith_append_of_apart rfl s
      rw [className?, afterStart?, hapart]
      rfl
    rw [List.cons_append, readBodies, ih h.2, Option.bind_some, readClassLine, if_neg hfilled,
      hclass]
    dsimp only
    rw [if_pos (startsWith_append "    " s)]

/-- The classes of a module are found, with their lines. -/
theorem readBodies_pythonBlocks {blocks : List EnumBlock} (h : ∀ b ∈ blocks, b.IsSpelled) :
    readBodies (blocks.flatMap pythonBlockLines) = some ([], blocks.map EnumBlock.rawClass) := by
  induction blocks with
  | nil => rfl
  | cons b blocks ih =>
    rw [List.forall_mem_cons] at h
    have hbody : readBodies (b.rawClass.lines ++ blocks.flatMap pythonBlockLines) =
        some (b.rawClass.lines, blocks.map EnumBlock.rawClass) :=
      readBodies_indented (fun line hline => exists_append_of_mem_rawClass hline) (ih h.2)
    have hfilled : "class " ++ b.name ++ "(Enum):" ≠ "" := by simp [String.append_eq_empty_iff]
    -- two empty lines, the first line of the class and those of its members
    show readBodies ("" :: "" :: ("class " ++ b.name ++ "(Enum):") ::
      (b.rawClass.lines ++ blocks.flatMap pythonBlockLines)) = _
    rw [readBodies, readBodies, readBodies, hbody, Option.bind_some, readClassLine, if_neg hfilled,
      className?_firstLine h.1]
    rfl

theorem newline_notMem_pythonBlocks {blocks : List EnumBlock} (h : ∀ b ∈ blocks, b.IsSpelled) :
    ∀ line ∈ blocks.flatMap pythonBlockLines, '\n' ∉ line.toList := by
  have hname {name : String} (hname : ∀ c ∈ name.toList, isNameChar c = true) :
      '\n' ∉ name.toList := fun hmem => absurd (hname '\n' hmem) (by decide)
  intro line hline
  obtain ⟨b, hb, hline⟩ := List.mem_flatMap.mp hline
  replace hline : line ∈ "" :: "" :: ("class " ++ b.name ++ "(Enum):") :: b.rawClass.lines := hline
  simp only [List.mem_cons] at hline
  rcases hline with rfl | rfl | rfl | hline
  · decide
  · decide
  · simp [hname (h b hb).isNameChar]
  · rcases exists_of_mem_rawClass hline with rfl | ⟨m, hm, rfl⟩
    · decide
    · rw [pythonMemberLine_eq]
      simp [hname ((h b hb).members m hm).isNameChar, newline_notMem_written]

/-- The classes of a module are read back from their text. -/
theorem readClasses_pythonBlocks {blocks : List EnumBlock} (h : ∀ b ∈ blocks, b.IsSpelled) :
    readClasses (textOfLines (blocks.flatMap pythonBlockLines)) =
      some (blocks.map fun b => (b.name, b.members.map fun m => (m.identifier, m.denoted))) := by
  rw [readClasses, linesIn_textOfLines (newline_notMem_pythonBlocks h), readBodies_pythonBlocks h]
  exact mapM_readClassBody h

/-- The lines before the classes. -/
def moduleHeading (version title : String) : List String :=
  ["\"\"\"" ++ version ++ " " ++ title ++ ".", "", "Generated by psdgen. Do not edit.", "\"\"\"",
    "", "from enum import Enum"]

/-- **What the members of a module denote.**  Behind the heading the classes are read back, with the
identifiers of their members.  A member denotes its number if it has one, and the units of its value
in UTF-16 otherwise.  That is its value, code point by code point, exactly if no character of the
value lies beyond the basic plane. -/
theorem readClasses_enumSource (version space title : String) {blocks : List EnumBlock}
    (hbuilt : ∀ b ∈ blocks, b.IsBuilt .python) :
    (∃ body, enumSource .python version blocks space title =
        textOfLines (moduleHeading version title) ++ body ∧
      readClasses body =
        some (blocks.map fun b => (b.name, b.members.map fun m => (m.identifier, m.denoted)))) ∧
      ∀ b ∈ blocks, ∀ m ∈ b.members, m.number = none →
        (m.denoted = .text (m.value.toList.map Char.toNat) ↔
          ∀ c ∈ m.value.toList, c.toNat < 0x10000) := by
  have hspelled : ∀ b ∈ blocks, b.IsSpelled := fun b hb => (hbuilt b hb).isSpelled
  constructor
  · exact ⟨textOfLines (blocks.flatMap pythonBlockLines), textOfLines_append _ _,
      readClasses_pythonBlocks hspelled⟩
  · intro b _ m _ hnumber
    rw [← flatMap_utf16Units_eq_iff, EnumMember.denoted, hnumber]
    dsimp only
    rw [MemberValue.text.injEq]

/-- A block with a quoted value, one in another script, and a number. -/
def roomBlock : EnumBlock where
  name := "PEnum_Room"
  members := [⟨"_Hall_", "\"Hall\"", none⟩, ⟨"K_che", "Küche", none⟩, ⟨"_007", "007", some 7⟩]

theorem readClasses_enumSource_room :
    (∀ b ∈ [roomBlock], b.IsBuilt .python) ∧
      ∃ body, enumSource .python "IFC4" [roomBlock] =
          textOfLines (moduleHeading "IFC4" defaultTitle) ++ body ∧
        readClasses body = some [("PEnum_Room",
          [("_Hall_", .text ("\"Hall\"".toList.map Char.toNat)),
            ("K_che", .text ("Küche".toList.map Char.toNat)), ("_007", .number 7)])] := by
  have hbuilt : ∀ b ∈ [roomBlock], b.IsBuilt .python :=
    List.forall_mem_singleton.mpr ⟨"PEnum_Room", ["\"Hall\"", "Küche", "007"], by decide⟩
  obtain ⟨⟨body, hbody, hread⟩, -⟩ := readClasses_enumSource "IFC4" "" defaultTitle hbuilt
  refine ⟨hbuilt, body, hbody, hread.trans ?_⟩
  decide

/-- A character beyond the basic plane is read as two code points, neither of which is its own. -/
theorem readClasses_beyond_plane :
    ∃ block body, (buildBlock "PEnum_Mood" ["😀x"] .python).run.value = .ok block ∧
      enumSource .python "IFC4" [block] =
        textOfLines (moduleHeading "IFC4" defaultTitle) ++ body ∧
      readClasses body = some [("PEnum_Mood", [("_x", .text [0xD83D, 0xDE00, 0x78])])] ∧
      "😀x".toList.map Char.toNat = [0x1F600, 0x78] ∧
      [0xD83D, 0xDE00, 0x78] ≠ "😀x".toList.map Char.toNat := by
  refine ⟨{ name := "PEnum_Mood", members := [⟨"_x", "😀x", none⟩] },
    "\n\nclass PEnum_Mood(Enum):\n    _x = \"\\ud83d\\ude00x\"\n", ?_, ?_, ?_, ?_, ?_⟩
  · decide
  · decide +kernel
  · decide
  · decide
  · decide

end PsetCompiler
