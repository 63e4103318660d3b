import PsetCompiler.Proofs.Parameter.Seeded

/-!
# Rows in front of damage

A file may be damaged: behind lines in UTF-8 stand octets that are no such text.  What becomes of
the rows on these lines hangs on where the first octet stands that is refused.  The file is read in
blocks, and the block of that octet is lost, with all lines that end in it.  Only if there is no
such octet, and the file just ends in the middle of a character or of a surrogate, every line is
read; but then a carriage return in front of what is cut off does not end its line.

So rows in front of the damage need not be kept.  They are exactly if every name on the lost lines
is known: from the table, or from a row that was read.

## Main definitions

* `faultAt`, `textRead`, `linesRead` — where a damaged file is refused, and what is read of it.
* `KeepsFirstRows` — a table takes in the first row of every new name on some lines.

## Main results

* `value_seedFile_damaged` — the rows on the lines that are read come in.
* `keepsFirstRows_iff` — **when the rows in front of the damage are kept.**
* `not_keepsRowsInFront_broken` — they need not be.
-/

namespace PsetCompiler

open Text (Bytes encodeUtf8 completeLines dropMark dropPendingReturn)

/-! ### What is read -/

/-- How many octets of a file are taken before one is refused. -/
def faultAt (content : Bytes) : Nat :=
  Text.soundLength Text.Utf8.step .between content

/-- How many octets of a damaged file are read: all of them if none is refused, else those of the
full blocks in front of the first one that is. -/
def octetsRead (content : Bytes) : Nat :=
  Text.readLength Text.Utf8.step .between content

/-- The text that is read of a damaged file. -/
def textRead (content : Bytes) : List Char :=
  Text.soundText Text.Utf8.step .between (content.take (octetsRead content))

/-- The lines that are read of a damaged file. -/
def linesRead (content : Bytes) : List (List Char) :=
  completeLines (dropPendingReturn (dropMark (textRead content)))

/-- The rows on the lines that are read come in. -/
theorem value_seedFile_damaged {cs : List Char} {bad : Bytes} (hcs : cs ≠ [])
    (hbad : ∀ ds, bad ≠ encodeUtf8 ds) (file path : String) (table : ParameterTable) :
    (seedFile file path (encodeUtf8 cs ++ bad) table).value.1 =
      (readRows (linesRead (encodeUtf8 cs ++ bad))).foldl keepFirst table := by
  rw [value_seedFile, Text.readBlocks_damaged hcs hbad]
  exact (value_seedLines _ _ _ _).1

/-- The lines of a text and those that are read of its file begin in the same way. -/
theorem linesRead_isPrefix_or {cs : List Char} {content : Bytes} (h : encodeUtf8 cs <+: content) :
    linesRead content <+: completeLines (dropMark cs) ∨
      completeLines (dropMark cs) <+: linesRead content := by
  have hall : completeLines (dropMark cs) <+:
      completeLines (dropMark (Text.soundText Text.Utf8.step .between content)) :=
    Text.completeLines_isPrefix
      (Text.Encoding.dropMark_isPrefix (Text.reads_utf8.isPrefix_iff.mp h))
  have hread : linesRead content <+:
      completeLines (dropMark (Text.soundText Text.Utf8.step .between content)) := by
    refine Text.completeLines_isPrefix ((Text.dropPendingReturn_isPrefix _).trans ?_)
    exact Text.Encoding.dropMark_isPrefix (Text.soundText_isPrefix _ (List.take_prefix _ content))
  exact List.prefix_or_prefix_of_prefix hread hall

/-! ### Which rows are kept -/

/-- A table takes in the first row of every new name on some lines. -/
def KeepsFirstRows (lines : List (List Char)) (content : Bytes) (table : ParameterTable) : Prop :=
  ∀ (file path name : String) (p : Parameter), table.lookup name = none →
    (readRows lines).find? (·.name == name) = some p →
      (seedFile file path content table).value.1.lookup name = some p

theorem readRows_append (lines more : List (List Char)) :
    readRows (lines ++ more) = readRows lines ++ readRows more :=
  List.filterMap_append

theorem find?_name_eq_none {ps : List Parameter} {name : String} :
    ps.find? (·.name == name) = none ↔ name ∉ ps.map (·.name) := by
  simp [List.find?_eq_none]

/-- If the rows on the first lines come in, then those on all lines are kept exactly if the names on
the other lines are known. -/
theorem keepsFirstRows_append_iff {content : Bytes} {table : ParameterTable}
    {first : List (List Char)} (h : ∀ file path, (seedFile file path content table).value.1 =
      (readRows first).foldl keepFirst table) (lost : List (List Char)) :
    KeepsFirstRows (first ++ lost) content table ↔
      ∀ p ∈ readRows lost, p.name ∈ table.map (·.1) ++ (readRows first).map (·.name) := by
  constructor
  · intro hkeeps p hp
    by_contra hnew
    rw [List.mem_append, not_or] at hnew
    have hold : table.lookup p.name = none := lookup_eq_none_iff_notMem_keys.mpr hnew.1
    have hfirst := find?_name_eq_none.mpr hnew.2
    obtain ⟨q, hq⟩ : ∃ q, (readRows lost).find? (·.name == p.name) = some q :=
      Option.ne_none_iff_exists'.mp (mt find?_name_eq_none.mp
        (not_not_intro (List.mem_map_of_mem hp)))
    have hkept := hkeeps "" "" p.name q hold (by
      rw [readRows_append, List.find?_append, hfirst, Option.none_or, hq])
    rw [h, lookup_foldl_keepFirst, hold, hfirst] at hkept
    cases hkept
  · intro hknown file path name p hold hp
    rw [h, lookup_foldl_keepFirst, hold, Option.none_or]
    rw [readRows_append, List.find?_append, Option.or_eq_some_iff] at hp
    rcases hp with hp | ⟨hfirst, hp⟩
    · exact hp
    · -- the name would be known, but it is neither in the table nor on the first lines
      obtain rfl : p.name = name := by simpa using List.find?_some hp
      have hmem := hknown p (List.mem_of_find?_eq_some hp)
      rw [List.mem_append] at hmem
      rcases hmem with hmem | hmem
      · exact absurd hmem (lookup_eq_none_iff_notMem_keys.mp hold)
      · exact absurd hmem (find?_name_eq_none.mp hfirst)

/-- What comes in of more lines comes in of the first of them. -/
theorem keepsFirstRows_of_isPrefix {content : Bytes} {table : ParameterTable}
    {lines more : List (List Char)} (h : ∀ file path, (seedFile file path content table).value.1 =
      (readRows more).foldl keepFirst table) (hlines : lines <+: more) :
    KeepsFirstRows lines content table := by
  intro file path name p hold hp
  obtain ⟨rest, rfl⟩ := hlines
  rw [h, lookup_foldl_keepFirst, hold, Option.none_or, readRows_append, List.find?_append, hp,
    Option.some_or]

/-- **When the rows in front of the damage are kept.**  A file is a text in UTF-8 with octets behind
it that are no such text.  So many of its octets are taken as begin some text, and the first two of
a surrogate behind a text; if these are not all, then only what is in full blocks.  The text that is
written in there is read, and the rows on its complete lines come in.  The first rows of new names
on the complete lines in front of the damage are all kept exactly if every name on the lines that
are lost is in the table or was read. -/
theorem keepsFirstRows_iff {cs : List Char} {bad : Bytes} (hcs : cs ≠ [])
    (hbad : ∀ ds, bad ≠ encodeUtf8 ds) (table : ParameterTable) :
    let content := encodeUtf8 cs ++ bad
    let fault := faultAt content
    let known := table.map (·.1) ++ (readRows (linesRead content)).map (·.name)
    let lines := completeLines (dropMark cs)
    let lost := lines.drop (linesRead content).length
    (fault ≤ content.length ∧
        ∀ n ≤ content.length, n ≤ fault ↔ Text.IsOpening (content.take n)) ∧
      octetsRead content = (if fault = content.length then content.length
        else fault / Text.blockSize * Text.blockSize) ∧
      (∀ ds, encodeUtf8 ds <+: content.take (octetsRead content) ↔ ds <+: textRead content) ∧
      (∀ file path, (seedFile file path content table).value.1 =
        (readRows (linesRead content)).foldl keepFirst table) ∧
      (KeepsFirstRows lines content table ↔ ∀ p ∈ readRows lost, p.name ∈ known) := by
  intro content fault known lines lost
  have hrows (file path : String) := value_seedFile_damaged hcs hbad file path table
  refine ⟨⟨Text.soundLength_le _ _, fun n => Text.le_soundLength_iff⟩, rfl,
    fun ds => Text.reads_utf8.isPrefix_iff, hrows, ?_⟩
  rcases linesRead_isPrefix_or (List.prefix_append (encodeUtf8 cs) bad) with hprefix | hprefix
  · -- the lines that are lost stand behind those that are read
    have hlines : lines = linesRead content ++ lost := (List.prefix_iff_eq_append.mp hprefix).symm
    rw [hlines]
    exact keepsFirstRows_append_iff hrows lost
  · have hlost : lost = [] := List.drop_of_length_le hprefix.length_le
    rw [hlost]
    exact iff_of_true (keepsFirstRows_of_isPrefix hrows hprefix) (List.forall_mem_nil _)

/-- A line with a row. -/
def fireLine : List Char :=
  "PARAM\t00000000-0000-0000-0000-000000000001\tFireRating\tTEXT\t\t2\t1\tIfcLabel\t1\n".toList

theorem fireLine_ne_nil : fireLine ≠ [] := by
  decide +kernel

/-- Nothing is lost of a file that ends in the middle of a character. -/
theorem keepsFirstRows_iff_cut :
    fireLine ≠ [] ∧ (∀ ds, [0xE2, 0x82] ≠ encodeUtf8 ds) ∧
      KeepsFirstRows (completeLines (dropMark fireLine)) (encodeUtf8 fireLine ++ [0xE2, 0x82])
        [] := by
  have hbad (ds : List Char) : [0xE2, 0x82] ≠ encodeUtf8 ds := by
    rw [ne_eq, ← Text.decodeUtf8?_eq_some_iff]
    exact nofun
  obtain ⟨-, -, -, -, hkeeps⟩ := keepsFirstRows_iff fireLine_ne_nil hbad []
  refine ⟨fireLine_ne_nil, hbad, hkeeps.mpr ?_⟩
  decide +kernel

/-- Nor is it of one that ends in the middle of a surrogate; its last octet takes the block away. -/
example :
    (readRows (linesRead (encodeUtf8 fireLine ++ [0xED, 0xA0]))).map (·.name) = ["FireRating"] ∧
      readRows (linesRead (encodeUtf8 fireLine ++ [0xED, 0xA0, 0x80])) = [] := by
  decide +kernel

/-- All rows in front of octets that are no text are kept. -/
def KeepsRowsInFront : Prop :=
  ∀ (cs : List Char) (bad : Bytes) (table : ParameterTable), (∀ ds, bad ≠ encodeUtf8 ds) →
    KeepsFirstRows (completeLines (dropMark cs)) (encodeUtf8 cs ++ bad) table

/-- A line that is no text. -/
def undecodableLine : Bytes :=
  0xFF :: 0xFE :: 0xFD :: encodeUtf8 " broken\n".toList

/-- The rows in front of octets that are no text need not be kept: a line that is broken in the
first block takes the rows in front of it with it. -/
theorem not_keepsRowsInFront_broken : ¬KeepsRowsInFront := by
  intro h
  have hbad (ds : List Char) : undecodableLine ≠ encodeUtf8 ds := by
    rw [ne_eq, ← Text.decodeUtf8?_eq_some_iff]
    exact nofun
  have hnone : readRows (linesRead (encodeUtf8 fireLine ++ undecodableLine)) = [] := by
    decide +kernel
  have hrow : (readRows (completeLines (dropMark fireLine))).find? (·.name == "FireRating") =
      some { name := "FireRating", guid := some "00000000-0000-0000-0000-000000000001"
             paramType := .text, description := "IfcLabel" } := by decide +kernel
  have hkept := h fireLine undecodableLine [] hbad "seed.txt" "seed.txt" "FireRating" _ rfl hrow
  rw [value_seedFile_damaged fireLine_ne_nil hbad, hnone] at hkept
  cases hkept

end PsetCompiler
