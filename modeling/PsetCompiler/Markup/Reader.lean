import PsetCompiler.Markup.Name

/-!
# Reading markup

Readers take characters from the front of a text, or fail.

## Main definitions

* `Reader` — readers.
* `expect`, `readName`, `readThrough` — the readers of which the others are made.
* `Piece`, `readReference` — a character or a reference to an entity.
-/

namespace PsetCompiler.Markup

/-- A reader takes characters from the front of a text. -/
abbrev Reader := StateT (List Char) Option

/-- The next character, which stays. -/
def peek : Reader Char := do
  match ← get with
  | c :: _ => return c
  | [] => failure

/-- The next character. -/
def next : Reader Char := do
  match ← get with
  | c :: rest =>
    set rest
    return c
  | [] => failure

/-- The characters that have to come next. -/
def expectChars : List Char → Reader Unit
  | [] => return ()
  | c :: word => do
    if (← next) = c then expectChars word else failure

/-- The word that has to come next. -/
def expect (word : String) : Reader Unit :=
  expectChars word.toList

/-- The text goes on with a word. -/
def ahead (word : String) : Reader Bool := do
  return word.toList.isPrefixOf (← get)

/-- The longest run of characters of a class. -/
def readWhile (p : Char → Bool) : Reader (List Char) := do
  let cs ← get
  set (cs.dropWhile p)
  return cs.takeWhile p

/-- Blanks, if any. -/
def skipSpace : Reader Unit := do
  let _ ← readWhile isSpace

/-- At least one blank. -/
def needSpace : Reader Unit := do
  if isSpace (← peek) then skipSpace else failure

/-- A name. -/
def readName : Reader String := do
  if isNameStart (← peek) then
    return String.ofList (← readWhile isNameInner)
  else
    failure

/-- A word: characters that may stand inside a name. -/
def readWord : Reader String := do
  let cs ← readWhile isNameInner
  if cs.isEmpty then failure else return String.ofList cs

/-- The characters before a word, and those behind it. -/
def cutAt? (word : List Char) : List Char → Option (List Char × List Char)
  | [] => none
  | c :: rest =>
    if word.isPrefixOf (c :: rest) then some ([], (c :: rest).drop word.length)
    else if isReadable c then do
      let (before, after) ← cutAt? word rest
      return (c :: before, after)
    else none

/-- The characters before a word, which is passed over as well. -/
def readThrough (word : String) : Reader (List Char) := do
  let (before, after) ← liftM (cutAt? word.toList (← get))
  set after
  return before

/-- A quotation mark; the same one ends what it begins. -/
def readQuote : Reader Char := do
  let c ← next
  if c = '"' ∨ c = '\'' then return c else failure

/-- The characters between two quotation marks. -/
def readQuoted : Reader (List Char) := do
  let quote ← readQuote
  readThrough (String.ofList [quote])

/-! ### References -/

/-- A character, or a reference to an entity. -/
inductive Piece where
  | char (c : Char)
  | entity (name : String)
deriving DecidableEq, Repr

/-- The entity that a piece refers to. -/
def Piece.entity? : Piece → Option String
  | .char _ => none
  | .entity name => some name

/-- The entities that are always there. -/
def predefinedEntities : List (String × Char) :=
  [("lt", '<'), ("gt", '>'), ("amp", '&'), ("quot", '"'), ("apos", '\'')]

/-- The value of a hexadecimal digit. -/
def hexDigit? (c : Char) : Option Nat :=
  if '0' ≤ c && c ≤ '9' then some (c.toNat - 48)
  else if 'a' ≤ c && c ≤ 'f' then some (c.toNat - 87)
  else if 'A' ≤ c && c ≤ 'F' then some (c.toNat - 55)
  else none

/-- The number that digits of a base spell. -/
def digitsNumber? (base : Nat) (cs : List Char) : Option Nat :=
  if cs.isEmpty then none
  else
    cs.foldl (fun value c => do
      let digit ← hexDigit? c
      if digit < base then some ((← value) * base + digit) else none) (some 0)

/-- The character of a code point, if a document may hold it. -/
def charOfCode? (code : Nat) : Option Char :=
  let c := Char.ofNat code
  if c.toNat = code ∧ isAllowed c then some c else none

/-- A reference to a character, behind its mark `&#`. -/
def readCharReference : Reader Char := do
  let base ← if (← peek) = 'x' then (do let _ ← next; pure 16) else pure 10
  let digits ← readWhile fun c => (hexDigit? c).isSome
  expect ";"
  liftM ((digitsNumber? base digits).bind charOfCode?)

/-- A reference, behind its mark `&`. -/
def readReference : Reader Piece := do
  if (← peek) = '#' then
    let _ ← next
    return .char (← readCharReference)
  else
    let name ← readName
    expect ";"
    match predefinedEntities.lookup name with
    | some c => return .char c
    | none => return .entity name

/-! ### Values in quotation marks -/

/-- A quoted value, from behind its quotation mark to the one that ends it. A literal blank is a
space; the two characters of a line end are one blank. -/
def readValue (quote : Char) : (fuel : Nat) → Reader (List Piece)
  | 0 => failure
  | fuel + 1 => do
    let c ← next
    if c = quote then return []
    else if c = '&' then
      let piece ← readReference
      return piece :: (← readValue quote fuel)
    else if c = '<' ∨ !isReadable c then failure
    else if c = '\r' ∧ (← get).head? = some '\n' then readValue quote fuel
    else return .char (if isSpace c then ' ' else c) :: (← readValue quote fuel)

/-- A value in quotation marks, which has fewer characters than the bound. -/
def readQuotedValue (bound : Nat) : Reader (List Piece) := do
  let quote ← readQuote
  readValue quote bound

end PsetCompiler.Markup
