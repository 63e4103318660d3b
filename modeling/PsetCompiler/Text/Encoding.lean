import PsetCompiler.Text.Utf16

/-!
# Text files with a byte order mark

The mark at the start of a file tells how its text is encoded; without one it is UTF-8. A file is
read in blocks: a block with an octet that does not belong is lost as a whole, and the text of the
blocks before it is kept.

## Main definitions

* `Encoding.detect` — the encoding that the first octets tell.
* `BlockText` — the text of the blocks that could be read, and whether they were all.
* `readBlocks` — a file read block by block.
* `BlockText.lines` — the lines of what was read.
-/

namespace PsetCompiler.Text

/-- How the text of a file is encoded. -/
inductive Encoding where
  /-- UTF-8 without a mark. -/
  | utf8
  /-- UTF-8 behind a mark. -/
  | utf8Marked
  /-- UTF-16 behind a mark, which also tells the order of octets. -/
  | utf16 (order : ByteOrder)
deriving DecidableEq, Repr

/-- The encoding that the mark of a file tells. -/
def Encoding.detect : Bytes → Encoding
  | 0xEF :: 0xBB :: 0xBF :: _ => .utf8Marked
  | 0xFF :: 0xFE :: _ => .utf16 .little
  | 0xFE :: 0xFF :: _ => .utf16 .big
  | _ => .utf8

/-- The name of an encoding. -/
def Encoding.name : Encoding → String
  | .utf8 => "utf-8"
  | .utf8Marked => "utf-8-sig"
  | .utf16 _ => "utf-16"

/-- How many octets are read at a time. -/
def blockSize : Nat := 8192

/-- A file cut into blocks; all but the last are full. -/
def blocks (bytes : Bytes) : List Bytes :=
  if _h : bytes = [] then []
  else bytes.take blockSize :: blocks (bytes.drop blockSize)
termination_by bytes.length
decreasing_by
  have : 0 < bytes.length := List.length_pos_iff.mpr _h
  simp only [List.length_drop, blockSize]
  omega

/-- The text of the blocks that could be read. -/
structure BlockText where
  chars : List Char
  /-- The file was read to its end, and no character was cut off there. -/
  intact : Bool
deriving DecidableEq, Repr

/-- Blocks read by a machine; `complete` tells the states in which a file may end. -/
def readBlocksWith {σ : Type} (step : σ → UInt8 → Option (Option Char × σ)) (complete : σ → Bool) :
    σ → List Bytes → BlockText
  | state, [] => ⟨[], complete state⟩
  | state, block :: rest =>
    match runOctets step state block with
    | none => ⟨[], false⟩
    | some (cs, next) =>
      let after := readBlocksWith step complete next rest
      ⟨cs ++ after.chars, after.intact⟩

/-- The text without the mark at its start. -/
def dropMark : List Char → List Char
  | c :: rest => if c.toNat = 0xFEFF then rest else c :: rest
  | [] => []

/-- A file read block by block in an encoding. -/
def readBlocksAs (encoding : Encoding) (bytes : Bytes) : BlockText :=
  match encoding with
  | .utf8 => readBlocksWith Utf8.step (· == .between) .between (blocks bytes)
  | .utf8Marked =>
    let text := readBlocksWith Utf8.step (· == .between) .between (blocks bytes)
    { text with chars := dropMark text.chars }
  | .utf16 order =>
    let text := readBlocksWith (Utf16.step order) (· == {}) {} (blocks bytes)
    { text with chars := dropMark text.chars }

/-- A file read block by block in the encoding that its mark tells. -/
def readBlocks (bytes : Bytes) : BlockText :=
  readBlocksAs (.detect bytes) bytes

/-! ### Lines -/

/-- The text with a line feed for every line end: carriage return, line feed, or both. -/
def unifyLineEnds : List Char → List Char
  | [] => []
  | '\r' :: '\n' :: rest => '\n' :: unifyLineEnds rest
  | '\r' :: rest => '\n' :: unifyLineEnds rest
  | c :: rest => c :: unifyLineEnds rest

/-- The lines that line feeds end, and the text after the last of them. -/
def cutLines : List Char → List (List Char) × List Char
  | [] => ([], [])
  | c :: rest =>
    let (lines, last) := cutLines rest
    if c = '\n' then ([] :: lines, last)
    else
      match lines with
      | [] => ([], c :: last)
      | line :: more => ((c :: line) :: more, last)

/-- The lines of a whole text; a last line needs no line end. -/
def linesOf (cs : List Char) : List (List Char) :=
  let (lines, last) := cutLines (unifyLineEnds cs)
  if last.isEmpty then lines else lines ++ [last]

/-- The text without a carriage return at its end, where a line feed might still have followed. -/
def dropPendingReturn (cs : List Char) : List Char :=
  match cs.reverse with
  | '\r' :: rest => rest.reverse
  | _ => cs

/-- The lines that were read: all of them when the file is intact, else those that are known to be
complete. -/
def BlockText.lines (text : BlockText) : List (List Char) :=
  if text.intact then linesOf text.chars
  else (cutLines (unifyLineEnds (dropPendingReturn text.chars))).1

end PsetCompiler.Text
