import PsetCompiler.Proofs.Enumeration.Members
import PsetCompiler.Proofs.Enumeration.Named
import PsetCompiler.Proofs.Text.Lines

/-!
# Reading enumerations back

The source of enumerations is written line by line, with indentation, commas between members and
empty lines between blocks.  A reader that knows nothing but these lines recovers the blocks: it
looks for the outer braces, scans the lines between them for the first lines of blocks and for their
braces, and then reads the lines of members one by one.

What the names hold decides whether this works.  They are made of letters, digits and underscores,
so no name ends a line, opens a brace or runs into what follows it.

## Main definitions

* `linesIn`, `innerLines?` — the lines of a source, and those between the outer braces.
* `BlockScan`, `BlockScan.step`, `BlockScan.run` — a scan over the lines of blocks.
* `readMember`, `readEnums` — the member of a line, and all blocks of a source.

## Main results

* `run_csharpBlocksLines` — the scan finds all blocks.
* `readMember_csharpMemberLine` — a member is read from its line.
* `isBalanced_csharpBlocksLines` — blocks open as many braces as they close.
* `readEnums_enumSource` — **the source can be read back.**
-/

namespace PsetCompiler

/-! ### The reader -/

/-- The lines of a text, each of which ends in a line feed. -/
def linesIn (text : String) : List String :=
  (Text.cutLines text.toList).1.map String.ofList

/-- What stands between the first line that is an opening brace and a last one that is a closing
brace. -/
def innerLines? (lines : List String) : Option (List String) :=
  match lines.dropWhile (· ≠ "\x7b") with
  | [] => none
  | _ :: rest => if rest.getLast? = some "\x7d" then some rest.dropLast else none

/-- What stands on a line behind its start. -/
def afterStart? (start line : String) : Option String :=
  if Text.startsWith start line then some (String.ofList (line.toList.drop start.toList.length))
  else none

/-- A block with the lines of its members. -/
structure RawBlock where
  name : String
  lines : List String
deriving DecidableEq, Repr

/-- Where a scan stands: between blocks, behind the first line of a block, or among its members. -/
inductive LinePlace where
  | between
  | behind (name : String)
  | among (name : String) (lines : List String)
deriving DecidableEq, Repr

/-- A scan over the lines of blocks: the blocks that were closed, and where it stands. -/
structure BlockScan where
  done : List RawBlock
  place : LinePlace
deriving DecidableEq, Repr

namespace BlockScan

/-- The scan after one more line, if that can stand here. -/
def step (s : BlockScan) (line : String) : Option BlockScan :=
  match s.place with
  | .between =>
    if line = "" then some s
    else (afterStart? enumStart line).map fun name => { s with place := .behind name }
  | .behind name => if line = "   \x7b" then some { s with place := .among name [] } else none
  | .among name lines =>
    if line = "   \x7d" then some { done := s.done ++ [⟨name, lines⟩], place := .between }
    else some { s with place := .among name (lines ++ [line]) }

/-- The scan after more lines. -/
def run (s : BlockScan) (lines : List String) : Option BlockScan :=
  lines.foldlM step s

end BlockScan

/-- The blocks of a source, with the lines of their members. -/
def readRawBlocks (source : String) : Option (List RawBlock) := do
  let lines ← innerLines? (linesIn source)
  let scan ← BlockScan.run ⟨[], .between⟩ lines
  if scan.place = .between then some scan.done else none

/-- The number that a text spells in digits. -/
def readDecimal (digits : String) : Option Nat :=
  if digits.toList.all Text.isAsciiDigit then Text.readDigits 10 false 0 digits.toList else none

/-- The line without a comma at its end. -/
def withoutComma (line : String) : String :=
  if Text.endsWith "," line then String.ofList line.toList.dropLast else line

/-- What a text begins with that can stand in a name, and what follows. -/
def nameAndRest (text : String) : String × String :=
  (String.ofList (text.toList.takeWhile isNameChar),
    String.ofList (text.toList.dropWhile isNameChar))

/-- The identifier and the number of the member that a text spells. -/
def readMemberText (text : String) : Option (String × Option Nat) :=
  let (name, rest) := nameAndRest text
  if name = "" then none
  else if rest = "" then some (name, none)
  else (name, some ·) <$> (afterStart? " = " rest >>= readDecimal)

/-- The identifier and the number of the member on a line. -/
def readMember (line : String) : Option (String × Option Nat) :=
  afterStart? "      " (withoutComma line) >>= readMemberText

/-- The names of the blocks of a source, with the identifiers and numbers of their members. -/
def readEnums (source : String) : Option (List (String × List (String × Option Nat))) := do
  let blocks ← readRawBlocks source
  blocks.mapM fun b => (b.name, ·) <$> b.lines.mapM readMember

theorem afterStart?_append (start s : String) : afterStart? start (start ++ s) = some s := by
  rw [afterStart?, if_pos (startsWith_append start s), String.toList_append, List.drop_left,
    String.ofList_toList]

/-- A name ends where something else begins. -/
theorem nameAndRest_append {name rest : String} (hname : ∀ c ∈ name.toList, isNameChar c = true)
    (hrest : rest.toList.takeWhile isNameChar = []) :
    nameAndRest (name ++ rest) = (name, rest) := by
  have hdrop : rest.toList.dropWhile isNameChar = rest.toList := by
    have hall := List.takeWhile_append_dropWhile (p := isNameChar) (l := rest.toList)
    rwa [hrest, List.nil_append] at hall
  rw [nameAndRest, String.toList_append, List.takeWhile_append_of_pos hname,
    List.dropWhile_append_of_pos hname, hrest, hdrop, List.append_nil, String.ofList_toList,
    String.ofList_toList]

/-! ### Lines -/

theorem toList_textOfLines (lines : List String) :
    (textOfLines lines).toList = Text.unlines (lines.map String.toList) := by
  induction lines with
  | nil => rfl
  | cons line lines ih =>
    rw [textOfLines_cons, String.toList_append, String.toList_append, ih, List.map_cons,
      Text.unlines, Text.unlines, List.flatMap_cons]
    rfl

theorem linesIn_textOfLines {lines : List String} (h : ∀ line ∈ lines, '\n' ∉ line.toList) :
    linesIn (textOfLines lines) = lines := by
  rw [linesIn, toList_textOfLines, Text.cutLines_unlines (List.forall_mem_map.mpr h), List.map_map]
  exact (List.map_congr_left fun _ _ => String.ofList_toList).trans (List.map_id _)

/-- The lines between the outer braces. -/
theorem innerLines?_append {heading inner : List String} (h : ∀ line ∈ heading, line ≠ "\x7b") :
    innerLines? (heading ++ "\x7b" :: (inner ++ ["\x7d"])) = some inner := by
  have hdrop : (heading ++ "\x7b" :: (inner ++ ["\x7d"])).dropWhile (· ≠ "\x7b") =
      "\x7b" :: (inner ++ ["\x7d"]) := by
    rw [List.dropWhile_append_of_pos fun line hline => decide_eq_true (h line hline)]
    rfl
  rw [innerLines?, hdrop]
  dsimp only
  rw [List.getLast?_concat, if_pos rfl, List.dropLast_concat]

/-! ### Scanning -/

namespace BlockScan

theorem run_nil (s : BlockScan) : s.run [] = some s := rfl

theorem run_cons (s : BlockScan) (line : String) (lines : List String) :
    s.run (line :: lines) = (s.step line).bind fun next => next.run lines := rfl

theorem run_append (s : BlockScan) (lines lines' : List String) :
    s.run (lines ++ lines') = (s.run lines).bind fun next => next.run lines' :=
  List.foldlM_append

/-- Lines that do not close the block are those of its members. -/
theorem run_among {lines : List String} (h : ∀ line ∈ lines, line ≠ "   \x7d")
    (done : List RawBlock) (name : String) (before : List String) :
    run ⟨done, .among name before⟩ lines = some ⟨done, .among name (before ++ lines)⟩ := by
  induction lines generalizing before with
  | nil => rw [run_nil, List.append_nil]
  | cons line lines ih =>
    rw [List.forall_mem_cons] at h
    rw [run_cons, step]
    dsimp only
    rw [if_neg h.1, Option.bind_some, ih h.2, List.append_assoc, List.singleton_append]

end BlockScan

/-! ### Lines of members -/

/-- All members but the last have a comma behind them. -/
theorem csharpMemberLines_concat (front : List EnumMember) (last : EnumMember) :
    csharpMemberLines (front ++ [last]) =
      front.map (csharpMemberLine false) ++ [csharpMemberLine true last] := by
  induction front with
  | nil => rfl
  | cons m front ih =>
    rw [List.cons_append, List.map_cons, List.cons_append, ← ih, csharpMemberLines]
    simp

/-- The line of a member behind its indentation, without a comma. -/
def memberText (m : EnumMember) : String :=
  m.identifier ++ match m.number with
    | some n => " = " ++ toString n
    | none => ""

theorem csharpMemberLine_eq (last : Bool) (m : EnumMember) :
    csharpMemberLine last m = "      " ++ memberText m ++ if last then "" else "," :=
  congrArg (· ++ if last then "" else ",") String.append_assoc

/-- No line of a member closes a block. -/
theorem csharpMemberLine_ne_closing (last : Bool) (m : EnumMember) :
    csharpMemberLine last m ≠ "   \x7d" := by
  intro h
  have hchar := congrArg (fun s => s.toList[3]?) h
  rw [csharpMemberLine_eq, String.append_assoc] at hchar
  simp at hchar

/-! ### Names that can be read back -/

/-- A member whose identifier is made of letters, digits and underscores, one at least. -/
structure EnumMember.IsSpelled (m : EnumMember) : Prop where
  ne_empty : m.identifier ≠ ""
  isNameChar : ∀ c ∈ m.identifier.toList, isNameChar c = true

/-- A block whose name and whose members are made of such characters. -/
structure EnumBlock.IsSpelled (b : EnumBlock) : Prop where
  isNameChar : ∀ c ∈ b.name.toList, isNameChar c = true
  members : ∀ m ∈ b.members, m.IsSpelled

/-- The block was built for a language, of some name and values. -/
def EnumBlock.IsBuilt (b : EnumBlock) (language : SourceLanguage) : Prop :=
  ∃ name values, (buildBlock name values language).run.value = .ok b

theorem isSpelled_blockOf (name : String) (values : List String) (language : SourceLanguage) :
    (blockOf name values language).IsSpelled where
  isNameChar := by
    intro c hc
    have hname : (blockOf name values language).name = sourceName name := rfl
    rw [hname, sourceName, String.toList_ofList] at hc
    exact isNameChar_of_mem_nameChars hc
  members := by
    intro m hm
    obtain ⟨value, rfl, hne⟩ := exists_of_mem_members hm
    obtain ⟨first, rest, hchars, hfirst, hrest⟩ := isIdentifier_memberSpelling hne
    refine ⟨hne, ?_⟩
    rw [← memberSpelling, hchars]
    simp only [isNameChar_iff, List.forall_mem_cons]
    exact ⟨.inl hfirst, hrest⟩

theorem EnumBlock.IsBuilt.isSpelled {b : EnumBlock} {language : SourceLanguage}
    (h : b.IsBuilt language) : b.IsSpelled := by
  obtain ⟨name, values, hbuilt⟩ := h
  obtain ⟨-, rfl⟩ := value_buildBlock_eq_ok_iff.mp hbuilt
  exact isSpelled_blockOf name values language

theorem isAsciiDigit_of_mem_toString {n : Nat} {c : Char} (hc : c ∈ (toString n).toList) :
    Text.isAsciiDigit c = true := by
  have hdigit : c.isDigit := by
    rw [Nat.toString_eq_repr, Nat.toList_repr] at hc
    exact Nat.isDigit_of_mem_toDigits (by decide) (by decide) hc
  have hrange := Text.toNat_of_isDigit hdigit
  rw [isAsciiDigit_iff]
  exact hrange

theorem readDecimal_toString (n : Nat) : readDecimal (toString n) = some n := by
  rw [readDecimal, if_pos (List.all_eq_true.mpr fun _ => isAsciiDigit_of_mem_toString)]
  rw [Nat.toString_eq_repr, Nat.toList_repr]
  exact Text.readDigits_toDigits n

/-- The characters behind the indentation of a member. -/
theorem of_mem_memberText {m : EnumMember} (h : m.IsSpelled) {c : Char}
    (hc : c ∈ (memberText m).toList) : isNameChar c = true ∨ c = ' ' ∨ c = '=' := by
  rw [memberText, String.toList_append, List.mem_append] at hc
  rcases hc with hc | hc
  · exact .inl (h.isNameChar c hc)
  · split at hc
    · rw [String.toList_append, List.mem_append] at hc
      rcases hc with hc | hc
      · simp at hc
        tauto
      · have hdigit := isAsciiDigit_iff.mp (isAsciiDigit_of_mem_toString hc)
        exact .inl (isNameChar_iff.mpr (.inr hdigit))
    · cases hc

/-- A character that may stand on the lines of a source besides its braces. -/
def isPlainChar (c : Char) : Bool :=
  isNameChar c || [' ', '/', '.', '=', ','].contains c

theorem isPlainChar_of_isNameChar {c : Char} (h : isNameChar c = true) : isPlainChar c = true := by
  rw [isPlainChar, h]
  rfl

/-- Words of plain characters hold no others. -/
theorem notMem_of_all_isPlainChar {word : String} (h : word.toList.all isPlainChar = true)
    {c : Char} (hc : isPlainChar c = false) : c ∉ word.toList := by
  intro hmem
  rw [List.all_eq_true.mp h c hmem] at hc
  cases hc

/-- The line of a member holds plain characters alone. -/
theorem all_isPlainChar_csharpMemberLine {m : EnumMember} (h : m.IsSpelled) (last : Bool) :
    (csharpMemberLine last m).toList.all isPlainChar = true := by
  have htext : (memberText m).toList.all isPlainChar = true := by
    rw [List.all_eq_true]
    intro c hc
    rcases of_mem_memberText h hc with hc | rfl | rfl
    · exact isPlainChar_of_isNameChar hc
    · rfl
    · rfl
  rw [csharpMemberLine_eq, String.toList_append, String.toList_append, List.all_append,
    List.all_append, htext]
  cases last with
  | true => rfl
  | false => rfl

/-! ### Reading members -/

section

variable {m : EnumMember} (h : m.IsSpelled)
include h

/-- A line ends with a comma unless it is the last. -/
theorem endsWith_csharpMemberLine (last : Bool) :
    Text.endsWith "," (csharpMemberLine last m) = !last := by
  rw [Text.endsWith]
  cases last with
  | false =>
    rw [csharpMemberLine_eq, String.toList_append, Bool.not_false, List.isSuffixOf_iff_suffix]
    exact List.suffix_append _ _
  | true =>
    rw [csharpMemberLine_eq, Bool.not_true, Bool.eq_false_iff, Ne, List.isSuffixOf_iff_suffix]
    intro hsuffix
    -- the comma at the end would be one of the characters of the member
    have hcomma : ',' ∈ ("      " ++ memberText m).toList := by
      have hmem := hsuffix.subset List.mem_cons_self
      rwa [if_pos rfl, String.append_empty] at hmem
    rw [String.toList_append, List.mem_append] at hcomma
    rcases hcomma with hcomma | hcomma
    · simp at hcomma
    · exact absurd (of_mem_memberText h hcomma) (by decide)

theorem withoutComma_csharpMemberLine (last : Bool) :
    withoutComma (csharpMemberLine last m) = "      " ++ memberText m := by
  rw [withoutComma, endsWith_csharpMemberLine h, csharpMemberLine_eq]
  cases last with
  | true => exact String.append_empty
  | false =>
    rw [if_pos (by rfl), String.toList_append]
    exact (congrArg String.ofList List.dropLast_concat).trans String.ofList_toList

/-- A member is read from its line. -/
theorem readMember_csharpMemberLine (last : Bool) :
    readMember (csharpMemberLine last m) = some (m.identifier, m.number) := by
  rw [readMember, withoutComma_csharpMemberLine h, afterStart?_append]
  show readMemberText (memberText m) = _
  rw [readMemberText, memberText]
  cases m.number with
  | none =>
    -- the identifier is all there is
    rw [nameAndRest_append h.isNameChar rfl]
    dsimp only
    rw [if_neg h.ne_empty, if_pos rfl]
  | some n =>
    -- the blank behind the identifier ends it
    have hblank : (" = " ++ toString n).toList.takeWhile isNameChar = [] := by
      rw [String.toList_append]
      rfl
    have hfilled : " = " ++ toString n ≠ "" := by simp [String.append_eq_empty_iff]
    rw [nameAndRest_append h.isNameChar hblank]
    dsimp only
    rw [if_neg h.ne_empty, if_neg hfilled, afterStart?_append]
    exact congrArg (Option.map _) (readDecimal_toString n)

end

/-- The identifiers and numbers of members. -/
def EnumBlock.readable (b : EnumBlock) : List (String × Option Nat) :=
  b.members.map fun m => (m.identifier, m.number)

theorem mapM_readMember {members : List EnumMember} (h : ∀ m ∈ members, m.IsSpelled) :
    (csharpMemberLines members).mapM readMember =
      some (members.map fun m => (m.identifier, m.number)) := by
  fun_induction csharpMemberLines members with
  | case1 => rfl
  | case2 m =>
    rw [List.forall_mem_singleton] at h
    rw [List.mapM_cons, readMember_csharpMemberLine h]
    rfl
  | case3 m rest _ ih =>
    rw [List.forall_mem_cons] at h
    rw [List.mapM_cons, readMember_csharpMemberLine h.1, ih h.2]
    rfl

/-! ### Scanning blocks -/

/-- A block with the lines of its members, as they are written. -/
def EnumBlock.raw (b : EnumBlock) : RawBlock :=
  ⟨b.name, csharpMemberLines b.members⟩

namespace BlockScan

theorem run_csharpBlockLines (done : List RawBlock) (b : EnumBlock) :
    run ⟨done, .between⟩ (csharpBlockLines b) = some ⟨done ++ [b.raw], .between⟩ := by
  have hmembers : ∀ line ∈ csharpMemberLines b.members, line ≠ "   \x7d" := by
    intro line hline
    obtain ⟨m, -, last, rfl⟩ := exists_of_mem_csharpMemberLines hline
    exact csharpMemberLine_ne_closing last m
  have hfirst : enumStart ++ b.name ≠ "" := by simp [String.append_eq_empty_iff, enumStart]
  -- the first line, the opening brace, the lines of members and the closing brace, one by one
  show run _ ((enumStart ++ b.name) :: "   \x7b" :: csharpMemberLines b.members ++ ["   \x7d"]) = _
  rw [List.cons_append, run_cons, step]
  dsimp only
  rw [if_neg hfirst, afterStart?_append, Option.map_some, Option.bind_some, List.cons_append,
    run_cons, step]
  dsimp only
  rw [if_pos rfl, Option.bind_some, run_append, run_among hmembers, Option.bind_some, run_cons,
    step]
  dsimp only
  rw [if_pos rfl]
  rfl

/-- The scan finds all blocks. -/
theorem run_csharpBlocksLines (done : List RawBlock) (blocks : List EnumBlock) :
    run ⟨done, .between⟩ (csharpBlocksLines blocks) =
      some ⟨done ++ blocks.map EnumBlock.raw, .between⟩ := by
  fun_induction csharpBlocksLines blocks generalizing done with
  | case1 => rw [run_nil, List.map_nil, List.append_nil]
  | case2 b => exact run_csharpBlockLines done b
  | case3 b rest _ ih =>
    -- the empty line behind a block is passed over
    rw [run_append, run_csharpBlockLines, Option.bind_some, run_cons, step]
    dsimp only
    rw [if_pos rfl, Option.bind_some, ih, List.map_cons, List.append_assoc, List.singleton_append]

end BlockScan

/-! ### Braces -/

/-- Lines open as many braces as they close. -/
def IsBalanced (lines : List String) : Prop :=
  (textOfLines lines).toList.count '\x7b' = (textOfLines lines).toList.count '\x7d'

theorem IsBalanced.append {lines lines' : List String} (h : IsBalanced lines)
    (h' : IsBalanced lines') : IsBalanced (lines ++ lines') := by
  unfold IsBalanced at h h' ⊢
  rw [textOfLines_append, String.toList_append, List.count_append, List.count_append, h, h']

/-- A line that opens a brace, and one that closes it. -/
theorem IsBalanced.enclosed {lines : List String} (h : IsBalanced lines) {first last : String}
    (hfirst : first.toList.count '\x7b' = first.toList.count '\x7d' + 1)
    (hlast : last.toList.count '\x7d' = last.toList.count '\x7b' + 1) :
    IsBalanced (first :: lines ++ [last]) := by
  have hcount {c : Char} (hc : c ≠ '\n') :
      (textOfLines (first :: lines ++ [last])).toList.count c =
        first.toList.count c + (textOfLines lines).toList.count c + last.toList.count c := by
    have hline (line : String) : (textOfLines [line]).toList.count c = line.toList.count c := by
      simp [toList_textOfLines, Text.unlines, hc.symm]
    rw [List.cons_append, ← List.singleton_append, textOfLines_append, textOfLines_append,
      String.toList_append, String.toList_append, List.count_append, List.count_append, hline,
      hline, Nat.add_assoc]
  unfold IsBalanced at h ⊢
  rw [hcount (by decide), hcount (by decide)]
  omega

theorem isBalanced_of_notMem {lines : List String}
    (h : ∀ line ∈ lines, '\x7b' ∉ line.toList ∧ '\x7d' ∉ line.toList) : IsBalanced lines := by
  have hcount (c : Char) (hc : c ≠ '\n') (hnot : ∀ line ∈ lines, c ∉ line.toList) :
      (textOfLines lines).toList.count c = 0 := by
    rw [List.count_eq_zero, toList_textOfLines]
    intro hmem
    obtain ⟨chars, hchars, hc'⟩ := List.mem_flatMap.mp hmem
    obtain ⟨line, hline, rfl⟩ := List.mem_map.mp hchars
    rcases List.mem_append.mp hc' with hc' | hc'
    · exact hnot line hline hc'
    · exact hc (List.mem_singleton.mp hc')
  unfold IsBalanced
  rw [hcount _ (by decide) fun line hline => (h line hline).1,
    hcount _ (by decide) fun line hline => (h line hline).2]

/-! ### The lines of blocks -/

namespace EnumBlock.IsSpelled

variable {b : EnumBlock} (h : b.IsSpelled)
include h

theorem all_isPlainChar_memberLine {line : String} (hline : line ∈ csharpMemberLines b.members) :
    line.toList.all isPlainChar = true := by
  obtain ⟨m, hm, last, rfl⟩ := exists_of_mem_csharpMemberLines hline
  exact all_isPlainChar_csharpMemberLine (h.members m hm) last

theorem all_isPlainChar_firstLine : (enumStart ++ b.name).toList.all isPlainChar = true := by
  have hname : b.name.toList.all isPlainChar = true :=
    List.all_eq_true.mpr fun c hc => isPlainChar_of_isNameChar (h.isNameChar c hc)
  rw [String.toList_append, List.all_append, hname]
  rfl

theorem newline_notMem {line : String} (hline : line ∈ csharpBlockLines b) :
    '\n' ∉ line.toList := by
  rw [csharpBlockLines, List.mem_append, List.mem_cons, List.mem_cons, List.mem_singleton] at hline
  rcases hline with (rfl | rfl | hline) | rfl
  · exact notMem_of_all_isPlainChar h.all_isPlainChar_firstLine rfl
  · decide
  · exact notMem_of_all_isPlainChar (h.all_isPlainChar_memberLine hline) rfl
  · decide

theorem isBalanced : IsBalanced (csharpBlockLines b) := by
  have hfirst : IsBalanced [enumStart ++ b.name] := by
    refine isBalanced_of_notMem (List.forall_mem_singleton.mpr ⟨?_, ?_⟩)
    · exact notMem_of_all_isPlainChar h.all_isPlainChar_firstLine rfl
    · exact notMem_of_all_isPlainChar h.all_isPlainChar_firstLine rfl
  have hmembers : IsBalanced (csharpMemberLines b.members) := by
    refine isBalanced_of_notMem fun line hline => ⟨?_, ?_⟩
    · exact notMem_of_all_isPlainChar (h.all_isPlainChar_memberLine hline) rfl
    · exact notMem_of_all_isPlainChar (h.all_isPlainChar_memberLine hline) rfl
  exact hfirst.append (hmembers.enclosed (by decide) (by decide))

end EnumBlock.IsSpelled

theorem newline_notMem_csharpBlocksLines {blocks : List EnumBlock}
    (h : ∀ b ∈ blocks, b.IsSpelled) : ∀ line ∈ csharpBlocksLines blocks, '\n' ∉ line.toList := by
  fun_induction csharpBlocksLines blocks with
  | case1 => exact nofun
  | case2 b => exact fun line hline => (List.forall_mem_singleton.mp h).newline_notMem hline
  | case3 b rest _ ih =>
    rw [List.forall_mem_cons] at h
    rw [List.forall_mem_append, List.forall_mem_cons]
    exact ⟨fun line hline => h.1.newline_notMem hline, by decide, ih h.2⟩

/-- Blocks open as many braces as they close. -/
theorem isBalanced_csharpBlocksLines {blocks : List EnumBlock} (h : ∀ b ∈ blocks, b.IsSpelled) :
    IsBalanced (csharpBlocksLines blocks) := by
  fun_induction csharpBlocksLines blocks with
  | case1 => rfl
  | case2 b => exact (List.forall_mem_singleton.mp h).isBalanced
  | case3 b rest _ ih =>
    rw [List.forall_mem_cons] at h
    have hblank : IsBalanced [""] := rfl
    exact h.1.isBalanced.append (hblank.append (ih h.2))

/-! ### The source -/

/-- The lines before the outer braces. -/
def csharpHeading (version space title : String) : List String :=
  ["// " ++ version ++ " " ++ title ++ ".", "// Generated by psdgen. Do not edit.",
    "namespace " ++ versionNamespace space version]

theorem csharpEnumLines_eq (version : String) (blocks : List EnumBlock) (space title : String) :
    csharpEnumLines version blocks space title =
      csharpHeading version space title ++ "\x7b" :: (csharpBlocksLines blocks ++ ["\x7d"]) := rfl

/-- Where a character that is not plain is in none of three texts, it is in no line of the heading
made of them. -/
theorem notMem_csharpHeading {version space title : String} {c : Char}
    (h : ∀ text ∈ [version, space, title], c ∉ text.toList) (hc : isPlainChar c = false) :
    ∀ line ∈ csharpHeading version space title, c ∉ line.toList := by
  have hword {word : String} (hword : word.toList.all isPlainChar = true) : c ∉ word.toList :=
    notMem_of_all_isPlainChar hword hc
  simp only [List.forall_mem_cons] at h
  obtain ⟨hversion, hspace, htitle, -⟩ := h
  have hnamespace : c ∉ (versionNamespace space version).toList := by
    unfold versionNamespace
    split
    · exact hversion
    · rw [String.toList_append, String.toList_append, List.mem_append, List.mem_append, not_or,
        not_or]
      exact ⟨⟨hspace, hword rfl⟩, hversion⟩
  unfold csharpHeading
  simp only [List.forall_mem_cons, String.toList_append, List.mem_append, not_or]
  exact ⟨⟨⟨⟨⟨hword rfl, hversion⟩, hword rfl⟩, htitle⟩, hword rfl⟩, hword rfl,
    ⟨hword rfl, hnamespace⟩, nofun⟩

theorem csharpHeading_ne_opening (version space title : String) :
    ∀ line ∈ csharpHeading version space title, line ≠ "\x7b" := by
  have happend (start s : String) (hstart : start ≠ "" ∧ start.toList.head? ≠ some '\x7b') :
      start ++ s ≠ "\x7b" := by
    intro h
    have hhead := congrArg (fun s => s.toList.head?) h
    rw [String.toList_append, List.head?_append_of_ne_nil] at hhead
    · exact hstart.2 hhead
    · rw [Ne, String.toList_eq_nil_iff]
      exact hstart.1
  unfold csharpHeading
  simp only [List.forall_mem_cons, String.append_assoc]
  exact ⟨happend _ _ (by decide), by decide, happend _ _ (by decide), nofun⟩

/-- The lines of members, all but the last with commas. -/
theorem EnumBlock.IsSpelled.endsWith_comma {b : EnumBlock} (h : b.IsSpelled) :
    (∀ line ∈ b.raw.lines.dropLast, Text.endsWith "," line = true) ∧
      ∀ line ∈ b.raw.lines.getLast?, Text.endsWith "," line = false := by
  have hmembers := h.members
  show (∀ line ∈ (csharpMemberLines b.members).dropLast, _) ∧
    ∀ line ∈ (csharpMemberLines b.members).getLast?, _
  rcases List.eq_nil_or_concat b.members with hnil | ⟨front, last, hconcat⟩
  · rw [hnil]
    exact ⟨nofun, nofun⟩
  · rw [List.concat_eq_append] at hconcat
    rw [hconcat, List.forall_mem_append, List.forall_mem_singleton] at hmembers
    rw [hconcat, csharpMemberLines_concat, List.dropLast_concat, List.getLast?_concat]
    constructor
    · rw [List.forall_mem_map]
      exact fun m hm => endsWith_csharpMemberLine (hmembers.1 m hm) false
    · rintro _ ⟨⟩
      exact endsWith_csharpMemberLine hmembers.2 true

theorem mapM_readMember_raw {blocks : List EnumBlock} (h : ∀ b ∈ blocks, b.IsSpelled) :
    ((blocks.map EnumBlock.raw).mapM fun b => (b.name, ·) <$> b.lines.mapM readMember) =
      some (blocks.map fun b => (b.name, b.readable)) := by
  induction blocks with
  | nil => rfl
  | cons b blocks ih =>
    rw [List.forall_mem_cons] at h
    have hmembers : b.raw.lines.mapM readMember = some b.readable := mapM_readMember h.1.members
    rw [List.map_cons, List.mapM_cons, hmembers, ih h.2]
    rfl

section

variable {version space title : String} {blocks : List EnumBlock}

/-- The scan of a source finds its blocks, with the lines of their members, behind any heading that
opens no brace. -/
theorem readRawBlocks_textOfLines {heading : List String}
    (hline : ∀ line ∈ heading, '\n' ∉ line.toList) (hopening : ∀ line ∈ heading, line ≠ "\x7b")
    (h : ∀ b ∈ blocks, b.IsSpelled) :
    readRawBlocks
        (textOfLines (heading ++ "\x7b" :: (csharpBlocksLines blocks ++ ["\x7d"]))) =
      some (blocks.map EnumBlock.raw) := by
  have hlines : linesIn
      (textOfLines (heading ++ "\x7b" :: (csharpBlocksLines blocks ++ ["\x7d"]))) =
        heading ++ "\x7b" :: (csharpBlocksLines blocks ++ ["\x7d"]) := by
    refine linesIn_textOfLines ?_
    rw [List.forall_mem_append, List.forall_mem_cons, List.forall_mem_append]
    exact ⟨hline, by decide, newline_notMem_csharpBlocksLines h, by decide⟩
  rw [readRawBlocks, hlines, innerLines?_append hopening]
  show (BlockScan.run ⟨[], .between⟩ (csharpBlocksLines blocks) >>= _) = _
  rw [BlockScan.run_csharpBlocksLines]
  rfl

theorem readRawBlocks_enumSource (hline : ∀ text ∈ [version, space, title], '\n' ∉ text.toList)
    (h : ∀ b ∈ blocks, b.IsSpelled) :
    readRawBlocks (enumSource .csharp version blocks space title) =
      some (blocks.map EnumBlock.raw) := by
  rw [enumSource, csharpEnumLines_eq]
  exact readRawBlocks_textOfLines (notMem_csharpHeading hline rfl)
    (csharpHeading_ne_opening version space title) h

/-- Where the blocks are found, their members are read. -/
theorem readEnums_of_readRawBlocks {source : String}
    (hread : readRawBlocks source = some (blocks.map EnumBlock.raw))
    (h : ∀ b ∈ blocks, b.IsSpelled) :
    readEnums source = some (blocks.map fun b => (b.name, b.readable)) := by
  rw [readEnums, hread]
  exact mapM_readMember_raw h

/-- A source opens as many braces as it closes, if none comes in from outside. -/
theorem isBalanced_csharpEnumLines
    (hbraces : ∀ text ∈ [version, space, title], '\x7b' ∉ text.toList ∧ '\x7d' ∉ text.toList)
    (h : ∀ b ∈ blocks, b.IsSpelled) : IsBalanced (csharpEnumLines version blocks space title) := by
  have hheading : IsBalanced (csharpHeading version space title) :=
    isBalanced_of_notMem fun line hline =>
      ⟨notMem_csharpHeading (fun text htext => (hbraces text htext).1) rfl line hline,
        notMem_csharpHeading (fun text htext => (hbraces text htext).2) rfl line hline⟩
  rw [csharpEnumLines_eq]
  exact hheading.append ((isBalanced_csharpBlocksLines h).enclosed (by decide) (by decide))

end

/-- **The source can be read back.**  As long as the version, the namespace and the title stay on
their lines, the names of the blocks come out again with the identifiers and numbers of their
members, all in order.  Of the lines of members all but the last end with commas, and there are as
many opening as closing braces. -/
theorem readEnums_enumSource {version space title : String}
    (hline : ∀ text ∈ [version, space, title], '\n' ∉ text.toList) {blocks : List EnumBlock}
    (hbuilt : ∀ b ∈ blocks, b.IsBuilt .csharp) :
    let source := enumSource .csharp version blocks space title
    readEnums source = some (blocks.map fun b => (b.name, b.readable)) ∧
      (∃ read, readRawBlocks source = some read ∧ ∀ b ∈ read,
        (∀ line ∈ b.lines.dropLast, Text.endsWith "," line = true) ∧
          ∀ line ∈ b.lines.getLast?, Text.endsWith "," line = false) ∧
      ((∀ text ∈ [version, space, title], '\x7b' ∉ text.toList ∧ '\x7d' ∉ text.toList) →
        source.toList.count '\x7b' = source.toList.count '\x7d') := by
  intro source
  have hspelled : ∀ b ∈ blocks, b.IsSpelled := fun b hb => (hbuilt b hb).isSpelled
  have hread : readRawBlocks source = some (blocks.map EnumBlock.raw) :=
    readRawBlocks_enumSource hline hspelled
  refine ⟨readEnums_of_readRawBlocks hread hspelled, ⟨_, hread, ?_⟩, ?_⟩
  · exact List.forall_mem_map.mpr fun b hb => (hspelled b hb).endsWith_comma
  · intro hbraces
    exact isBalanced_csharpEnumLines hbraces hspelled

/-- A block without members, and two with numbers. -/
def stateBlocks : List EnumBlock :=
  [{ name := "PEnum_None" },
    { name := "PEnum_State"
      members := [⟨"new", "new", none⟩, ⟨"_012", " 012 ", some 12⟩, ⟨"OLD1", "OLD-1", none⟩] },
    { name := "PEnum_Old", members := [⟨"_1", "1", some 1⟩] }]

theorem readEnums_enumSource_states :
    (∀ text ∈ ["IFC4", "Enums", defaultTitle], '\n' ∉ text.toList) ∧
      (∀ b ∈ stateBlocks, b.IsBuilt .csharp) ∧
      readEnums (enumSource .csharp "IFC4" stateBlocks "Enums") =
        some [("PEnum_None", []),
          ("PEnum_State", [("new", none), ("_012", some 12), ("OLD1", none)]),
          ("PEnum_Old", [("_1", some 1)])] := by
  have hline : ∀ text ∈ ["IFC4", "Enums", defaultTitle], '\n' ∉ text.toList := by decide
  have hbuilt : ∀ b ∈ stateBlocks, b.IsBuilt .csharp := by
    rw [stateBlocks, List.forall_mem_cons, List.forall_mem_cons, List.forall_mem_singleton]
    exact ⟨⟨"PEnum_None", [], by decide⟩, ⟨"PEnum_State", ["new", " 012 ", "OLD-1"], by decide⟩,
      ⟨"PEnum Old", ["1"], by decide⟩⟩
  exact ⟨hline, hbuilt, (readEnums_enumSource hline hbuilt).1⟩

end PsetCompiler
