import PsetCompiler.Text.Blank
import PsetCompiler.Text.Split
import PsetCompiler.Text.Width

/-!
# Text in columns

How a text is laid out in a number of columns. Controls that would move the cursor are left out and
tabs become blanks up to the next stop. A line that is too long is broken behind white space; the
white space stays at the end of its line as far as there is room.

## Main definitions

* `Overflow`, `Align` — what happens to long words, and to the room that a line leaves.
* `expandTabs` — a line with blanks for its tabs.
* `brokenLine` — a line broken to a width.
* `laidOut` — a text laid out in a width.
* `neededWidth` — the width in which a text needs no breaks.
-/

namespace PsetCompiler

open Text (charWidth textWidth isBlank splitBy trimEndBy)

/-- What becomes of a word that is longer than a line. -/
inductive Overflow where
  /-- It goes on in the next line. -/
  | fold
  /-- It ends with an ellipsis. -/
  | ellipsis
deriving DecidableEq, Repr

/-- Where a line sits in its columns. -/
inductive Align where
  /-- At their start, with nothing behind it. -/
  | ragged
  /-- At their start, with blanks behind it. -/
  | start
  /-- In their middle. -/
  | center
deriving DecidableEq, Repr

/-- So many blanks. -/
def blanks (n : Nat) : List Char :=
  List.replicate n ' '

/-- The columns between two tab stops. -/
def tabWidth : Nat := 8

/-- A control that moves the cursor without ending the line properly: bell, backspace, vertical tab,
form feed and carriage return. -/
def isCursorControl (c : Char) : Bool :=
  [7, 8, 11, 12, 13].contains c.toNat

/-- A part of a line with blanks up to the next tab stop, at least one. -/
def padToStop (part : List Char) : List Char :=
  part ++ blanks (tabWidth - textWidth part % tabWidth)

/-- A line with blanks for its tabs. Every part in front of a tab starts at a stop. -/
def expandTabs (line : List Char) : List Char :=
  let parts := splitBy (· = '\t') line
  parts.dropLast.flatMap padToStop ++ parts.getLastD []

/-! ### Breaking lines -/

/-- The words of a line, each with the white space behind it and the first also with that before
it. -/
def spacedWords (line : List Char) : List (List Char) :=
  words line.length line
where
  /-- The words of what is left of a line. -/
  words : (bound : Nat) → List Char → List (List Char)
    | 0, _ => []
    | bound + 1, cs =>
      let (before, rest) := cs.span isBlank
      let (word, rest) := rest.span (!isBlank ·)
      let (behind, rest) := rest.span isBlank
      if word.isEmpty then [] else (before ++ word ++ behind) :: words bound rest

/-- A word cut into pieces that fit into a width; `room` is what the first piece has left. -/
def chopped (width : Nat) : (room : Nat) → List Char → List (List Char)
  | _, [] => [[]]
  | room, c :: rest =>
    let fits := charWidth c ≤ room
    match chopped width ((if fits then room else width) - charWidth c) rest with
    | [] => [[c]]
    | piece :: pieces => if fits then (c :: piece) :: pieces else [] :: (c :: piece) :: pieces

/-- The lines into which a line is being broken. -/
structure Breaking where
  /-- The lines that are done. -/
  done : List (List Char) := []
  /-- The line that grows. -/
  current : List Char := []
  /-- The columns that count as taken in it. -/
  taken : Nat := 0

namespace Breaking

/-- The lines so far. -/
def lines (b : Breaking) : List (List Char) :=
  b.done ++ [b.current]

/-- Some characters go on in the line that grows. -/
def goOn (b : Breaking) (cs : List Char) : Breaking :=
  { b with current := b.current ++ cs, taken := b.taken + textWidth cs }

/-- Some characters start a line, the first line too if nothing is in it. -/
def startLine (b : Breaking) (cs : List Char) : Breaking :=
  { done := if b.current.isEmpty then b.done else b.lines, current := cs, taken := textWidth cs }

/-- A word goes where there is room for it. -/
def place (overflow : Overflow) (width : Nat) (b : Breaking) (word : List Char) : Breaking :=
  let needed := textWidth (trimEndBy isBlank word)
  if needed + b.taken ≤ width then b.goOn word
  else if needed ≤ width then b.startLine word
  else
    match overflow with
    | .fold => (chopped width width word).foldl startLine b
    | .ellipsis => b.startLine word

end Breaking

/-- A line broken to a width. -/
def brokenLine (overflow : Overflow) (width : Nat) (line : List Char) : List (List Char) :=
  match spacedWords line with
  | [] => [line]
  | words => (words.foldl (Breaking.place overflow width) {}).lines

/-! ### Fitting lines -/

/-- A line without as much white space at its end as it has characters beyond a width. -/
def dropExcess (width : Nat) (line : List Char) : List Char :=
  let space := line.length - (trimEndBy isBlank line).length
  line.take (line.length - min space (line.length - width))

/-- As much of a text as there is room for; half a wide character shows as a blank. -/
def cropped : (room : Nat) → List Char → List Char
  | _, [] => []
  | room, c :: rest =>
    if charWidth c ≤ room then c :: cropped (room - charWidth c) rest else blanks room

/-- A line cut to a width. -/
def truncated (overflow : Overflow) (width : Nat) (line : List Char) : List Char :=
  if textWidth line ≤ width then line
  else
    match overflow with
    | .fold => cropped width line
    | .ellipsis => cropped (width - 1) line ++ ['…']

/-- A line with blanks behind it, up to a width. -/
def padded (width : Nat) (line : List Char) : List Char :=
  line ++ blanks (width - textWidth line)

/-- A line put in its place in a width; in the middle, an odd blank goes behind it. -/
def aligned (align : Align) (overflow : Overflow) (width : Nat) (line : List Char) : List Char :=
  match align with
  | .ragged => truncated overflow width line
  | .start => padded width (truncated overflow width line)
  | .center =>
    let line := truncated overflow width (trimEndBy isBlank line)
    padded width (blanks ((width - textWidth line) / 2) ++ line)

/-- A line laid out in a width. -/
def laidOutLine (align : Align) (overflow : Overflow) (width : Nat) (line : List Char) :
    List (List Char) :=
  (brokenLine overflow width (expandTabs line)).map fun part =>
    aligned align overflow width (dropExcess width part)

/-- A text laid out in a width. -/
def laidOut (align : Align) (overflow : Overflow) (width : Nat) (s : String) : List String :=
  (splitBy (· = '\n') (s.toList.filter (!isCursorControl ·))).flatMap fun line =>
    (laidOutLine align overflow width line).map String.ofList

/-- A character behind which a line ends, for the purpose of measuring. -/
def isLineEnd (c : Char) : Bool :=
  [0x0A, 0x1C, 0x1D, 0x1E, 0x85, 0x2028, 0x2029].contains c.toNat

/-- The width of the longest line of a text, a tab not counted. -/
def neededWidth (s : String) : Nat :=
  (splitBy isLineEnd (s.toList.filter (!isCursorControl ·))).foldl
    (fun width line => max width (textWidth line)) 0

end PsetCompiler
