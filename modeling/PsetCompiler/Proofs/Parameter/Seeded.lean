import PsetCompiler.Proofs.Firsts
import PsetCompiler.Proofs.Parameter.Cut

/-!
# Starting a table from a file

A table takes in the rows of a file one after the other.  What was there stays as it is, of the rows
of a new name the first one comes in, and all other rows that are accepted are reported as repeated.
Nothing of this can fail: a file that is no text gives the rows on some of its first lines.

As the lines are those of the text, it does not matter in which encoding the text is written.

## Main definitions

* `placedRows` — the accepted rows among some lines, with their places.
* `Diagnostic.isRepeat` — the reports of repeated rows.

## Main results

* `foldl_keepFirst_eq` — what comes in, as a list.
* `filter_isRepeat_seedLines` — the rows that are reported as repeated.
* `seedFile_adds_firsts` — **a table keeps its entries and takes the first row of every new name.**
* `seedFile_encode` — **the encoding of a file does not matter.**
-/

namespace PsetCompiler

open Text (Spells Encoding linesOf)

/-! ### What comes in -/

/-- A table takes in the first parameters of new names. -/
theorem foldl_keepFirst_eq (table : ParameterTable) (ps : List Parameter) :
    ps.foldl keepFirst table =
      table ++ (firstsBeyond Parameter.name (table.map (·.1)) ps).map fun p => (p.name, p) := by
  induction ps generalizing table with
  | nil => exact (List.append_nil table).symm
  | cons p ps ih =>
    rw [List.foldl_cons, ih, keepFirst]
    by_cases hold : p.name ∈ table.map (·.1)
    · rw [if_pos (lookup_isSome_iff_mem_keys.mpr hold), firstsBeyond_cons_of_mem hold]
    · rw [if_neg (mt lookup_isSome_iff_mem_keys.mp hold), firstsBeyond_cons_of_notMem hold,
        List.map_append, List.append_assoc]
      rfl

/-! ### What is reported -/

/-- The report of a repeated row. -/
def Diagnostic.isRepeat : Diagnostic → Bool
  | .repeatedRow .. => true
  | _ => false

theorem Diagnostic.level_of_isRepeat {d : Diagnostic} (h : d.isRepeat) : d.level = .error := by
  cases d <;> first | rfl | cases h

/-- The accepted rows among some lines, each with its place; the first line has a number. -/
def placedRows (file : String) (number : Nat) (lines : List (List Char)) :
    List (String × Parameter) :=
  (lines.zipIdx number).filterMap fun line =>
    (parseRow line.1).value.map (file ++ ":" ++ toString line.2, ·)

/-- The name in a row with its place. -/
def placedName (row : String × Parameter) : String :=
  row.2.name

theorem placedRows_cons (file : String) (number : Nat) (line : List Char)
    (lines : List (List Char)) :
    placedRows file number (line :: lines) =
      ((parseRow line).value.map (file ++ ":" ++ toString number, ·)).toList ++
        placedRows file (number + 1) lines := by
  rw [placedRows, List.zipIdx_cons, List.filterMap_cons]
  cases (parseRow line).value <;> rfl

/-- A row that is read by itself is not reported as repeated. -/
theorem filter_isRepeat_parseRow (line : List Char) (place : String) :
    (parseRow line place).log.filter Diagnostic.isRepeat = [] := by
  have htype (name raw description : String) :
      (rowParamType place name raw description).log.filter Diagnostic.isRepeat = [] := by
    unfold rowParamType
    split <;> rfl
  unfold parseRow
  split
  · split
    · rfl
    · split
      · split
        · rfl
        · split
          · rfl
          · split
            · rfl
            · rw [Report.log_bind, List.filter_append, htype]
              rfl
      · rfl
  · rfl

/-- Every accepted row is reported whose name is in the table when its line is reached. -/
theorem filter_isRepeat_seedLines (file : String) (table : ParameterTable) (number : Nat)
    (lines : List (List Char)) :
    (seedLines file table number lines).log.filter Diagnostic.isRepeat =
      (repeatsBeyond placedName (table.map (·.1)) (placedRows file number lines)).map
        fun row => .repeatedRow row.1 (placedName row) := by
  induction lines generalizing table number with
  | nil => rfl
  | cons line lines ih =>
    rw [seedLines, Report.log_bind, List.filter_append, filter_isRepeat_parseRow, List.nil_append,
      value_parseRow, placedRows_cons]
    cases (parseRow line).value with
    | none => exact ih table (number + 1)
    | some p =>
      rw [Option.map_some, Option.toList_some, List.singleton_append]
      dsimp only
      by_cases hold : (table.lookup p.name).isSome
      · have hmem : placedName (file ++ ":" ++ toString number, p) ∈ table.map (·.1) :=
          lookup_isSome_iff_mem_keys.mp hold
        rw [if_pos hold, repeatsBeyond_cons_of_mem hmem, List.map_cons, ← ih table (number + 1)]
        rfl
      · have hnew : placedName (file ++ ":" ++ toString number, p) ∉ table.map (·.1) :=
          mt lookup_isSome_iff_mem_keys.mpr hold
        have hrest := ih (table ++ [(p.name, p)]) (number + 1)
        rw [List.map_append, List.map_singleton] at hrest
        rw [if_neg hold, repeatsBeyond_cons_of_notMem hnew, Report.log_bind, Report.log_pure,
          List.append_nil]
        exact hrest

theorem filter_isRepeat_seedFile (file path : String) (content : Text.Bytes)
    (table : ParameterTable) :
    (seedFile file path content table).log.filter Diagnostic.isRepeat =
      (seedLines file table 1 (Text.readBlocks content).lines).log.filter Diagnostic.isRepeat := by
  rw [seedFile, Report.log_bind, List.filter_append]
  split
  next seeded added heq =>
  split <;> exact List.append_nil _

/-! ### Lines of a file -/

theorem lines_of_spells {content : Text.Bytes} {cs : List Char} (h : Spells content cs) :
    (Text.readBlocks content).lines = linesOf cs := by
  rw [Text.readBlocks_of_spells h]
  rfl

/-- Of a file that is no text, the complete lines of what is read of it are taken. -/
theorem lines_of_not_spells {content : Text.Bytes} (h : ∀ cs, ¬Spells content cs) :
    (Text.readBlocks content).lines =
      Text.completeLines (Text.dropPendingReturn ((Encoding.detect content).soundText
        (content.take ((Encoding.detect content).readLength content)))) := by
  rw [Text.readBlocks_of_not_spells h]
  rfl

/-- What is read of a file that is no text are the first lines of its sound text. -/
theorem lines_isPrefix_of_not_spells {content : Text.Bytes} (h : ∀ cs, ¬Spells content cs) :
    (Text.readBlocks content).lines <+:
      Text.completeLines ((Encoding.detect content).soundText content) := by
  rw [lines_of_not_spells h]
  refine Text.completeLines_isPrefix ((Text.dropPendingReturn_isPrefix _).trans ?_)
  exact Encoding.soundText_isPrefix _ (List.take_prefix _ content)

/-- **A table keeps its entries and takes the first row of every new name.**  Whatever a file holds,
its rows are taken from some lines: from all lines of its text, or if it is no text, from some of
the first lines that are sound.  The entries of the table stay as they are, and behind them come, as
many as are counted, the parameters of the accepted rows that are the first of a name that was not
in the table.  Every other accepted row is reported as an error, with its line. -/
theorem seedFile_adds_firsts (file path : String) (content : Text.Bytes) (table : ParameterTable) :
    ∃ lines : List (List Char),
      (∀ cs, Spells content cs → lines = linesOf cs) ∧
      ((∀ cs, ¬Spells content cs) →
        lines <+: linesOf ((Encoding.detect content).soundText content)) ∧
      let taken := table.map (·.1)
      let added := firstsBeyond Parameter.name taken (readRows lines)
      let seeded := seedFile file path content table
      seeded.value = (table ++ added.map fun p => (p.name, p), added.length) ∧
        (added.map (·.name)).Nodup ∧ (∀ p ∈ added, p.name ∉ taken) ∧
        (∀ name, seeded.value.1.lookup name =
          (table.lookup name).or ((readRows lines).find? (·.name == name))) ∧
        seeded.log.filter Diagnostic.isRepeat =
          (repeatsBeyond placedName taken (placedRows file 1 lines)).map
            (fun row => .repeatedRow row.1 (placedName row)) ∧
        ∀ d ∈ seeded.log, d.isRepeat → d.level = .error := by
  refine ⟨(Text.readBlocks content).lines, fun cs => lines_of_spells, fun h => ?_, ?_⟩
  · exact (lines_isPrefix_of_not_spells h).trans (Text.completeLines_isPrefix_linesOf _)
  · intro taken added seeded
    have hvalue : seeded.value = _ := value_seedFile file path content table
    obtain ⟨htable, hcount⟩ := value_seedLines file table 1 (Text.readBlocks content).lines
    rw [← hvalue] at htable hcount
    have hadded := foldl_keepFirst_eq table (readRows (Text.readBlocks content).lines)
    refine ⟨Prod.ext (htable.trans hadded) ?_, nodup_map_firstsBeyond _ _, fun p => ?_,
      fun name => ?_, ?_, fun d _ => Diagnostic.level_of_isRepeat⟩
    · rw [hadded, List.length_append, List.length_map] at hcount
      exact Nat.add_left_cancel hcount
    · exact notMem_of_mem_firstsBeyond
    · rw [htable, lookup_foldl_keepFirst]
    · rw [filter_isRepeat_seedFile, filter_isRepeat_seedLines]

/-! ### Encodings -/

/-- **The encoding of a file does not matter.**  The rows come from the lines of the text, so a text
that does not start with a byte order mark gives the same table, the same count and the same reports
from all of its files. -/
theorem seedFile_encode {cs : List Char} (h : cs.head? ≠ some Text.byteOrderMark)
    (file path : String) (table : ParameterTable) :
    (∀ e : Encoding, (seedFile file path (e.encode cs) table).value =
        (seedLines file table 1 (linesOf cs)).value) ∧
      ∀ e e' : Encoding,
        seedFile file path (e.encode cs) table = seedFile file path (e'.encode cs) table := by
  have hread (e : Encoding) : Text.readBlocks (e.encode cs) = ⟨cs, true⟩ :=
    Text.readBlocks_of_spells (Text.spells_encode e h)
  constructor
  · intro e
    rw [value_seedFile, hread]
    rfl
  · intro e e'
    rw [seedFile, hread e, seedFile, hread e']

/-- A row of a name with an accent, and with a letter that takes two units in UTF-16. -/
def storeyText : List Char :=
  "PARAM\t00000000-0000-0000-0000-000000000001\tÉtage 𐐀\tTEXT\t\t2\t1\t\t1\r\n".toList

theorem seedFile_encode_storey :
    storeyText.head? ≠ some Text.byteOrderMark ∧
      (seedFile "a.txt" "a.txt" (Encoding.encode (.utf16 .big) storeyText) []).value.1.map (·.1) =
        ["Étage 𐐀"] ∧
      seedFile "a.txt" "a.txt" (Encoding.encode (.utf16 .big) storeyText) [] =
        seedFile "a.txt" "a.txt" (Encoding.encode .utf8 storeyText) [] := by
  have hmark : storeyText.head? ≠ some Text.byteOrderMark := by decide +kernel
  obtain ⟨hvalue, hsame⟩ := seedFile_encode hmark "a.txt" "a.txt" []
  refine ⟨hmark, ?_, hsame _ _⟩
  rw [hvalue]
  decide +kernel

end PsetCompiler
