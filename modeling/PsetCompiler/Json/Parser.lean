import PsetCompiler.Json
import PsetCompiler.Text.Digit

/-!
# Reading JSON

The grammar of JSON texts, strictly: no comments, no trailing commas, nothing after the value. The
words `NaN`, `Infinity` and `-Infinity` are read as numbers that are not finite. An escape for half
of a surrogate pair is refused.

## Main definitions

* `Json.readString`, `Json.readNumber` — the parts that are not nested.
* `Json.readValue` — a value at the start of a text, and what follows it.
* `Json.parse?` — the value that a whole text spells.
-/

namespace PsetCompiler.Json

open Text (isAsciiDigit decimalValue)

/-- White space between the parts of a JSON text. -/
def isSpace (c : Char) : Bool :=
  c = ' ' || c = '\t' || c = '\n' || c = '\r'

/-- The text without white space at its start. -/
def skipSpace (cs : List Char) : List Char :=
  cs.dropWhile isSpace

/-! ### Strings -/

/-- The value of a hexadecimal digit. -/
def hexValue? (c : Char) : Option Nat :=
  if '0' ≤ c ∧ c ≤ '9' then some (c.toNat - 48)
  else if 'a' ≤ c ∧ c ≤ 'f' then some (c.toNat - 87)
  else if 'A' ≤ c ∧ c ≤ 'F' then some (c.toNat - 55)
  else none

/-- The value of four hexadecimal digits. -/
def hexQuad? (a b c d : Char) : Option Nat := do
  return (← hexValue? a) * 4096 + (← hexValue? b) * 256 + (← hexValue? c) * 16 + (← hexValue? d)

/-- The character that a letter stands for behind a backslash. -/
def escaped? : Char → Option Char
  | '"' => some '"'
  | '\\' => some '\\'
  | '/' => some '/'
  | 'b' => some '\x08'
  | 'f' => some '\x0c'
  | 'n' => some '\n'
  | 'r' => some '\r'
  | 't' => some '\t'
  | _ => none

/-- A string from behind its opening quote: its characters and what follows its closing quote. -/
def readString : List Char → Option (List Char × List Char)
  | [] => none
  | '"' :: rest => some ([], rest)
  | '\\' :: 'u' :: a :: b :: c :: d :: '\\' :: 'u' :: e :: f :: g :: h :: rest =>
    match hexQuad? a b c d with
    | none => none
    | some high =>
      if 0xD800 ≤ high ∧ high < 0xDC00 then
        match hexQuad? e f g h with
        | some low =>
          if 0xDC00 ≤ low ∧ low < 0xE000 then
            (readString rest).map fun (cs, rest) =>
              (Char.ofNat (0x10000 + (high - 0xD800) * 1024 + (low - 0xDC00)) :: cs, rest)
          else none
        | none => none
      else if 0xDC00 ≤ high ∧ high < 0xE000 then none
      else
        (readString ('\\' :: 'u' :: e :: f :: g :: h :: rest)).map fun (cs, rest) =>
          (Char.ofNat high :: cs, rest)
  | '\\' :: 'u' :: a :: b :: c :: d :: rest =>
    match hexQuad? a b c d with
    | none => none
    | some code =>
      if 0xD800 ≤ code ∧ code < 0xE000 then none
      else (readString rest).map fun (cs, rest) => (Char.ofNat code :: cs, rest)
  | '\\' :: letter :: rest =>
    match escaped? letter with
    | none => none
    | some c => (readString rest).map fun (cs, rest) => (c :: cs, rest)
  | c :: rest =>
    if c.toNat < 0x20 then none else (readString rest).map fun (cs, rest) => (c :: cs, rest)

/-! ### Numbers -/

/-- The digits at the start of a text, and what follows them. -/
def spanDigits (cs : List Char) : List Char × List Char :=
  cs.span isAsciiDigit

/-- The digits of a whole part: a lone zero, or digits that do not start with one. -/
def readWhole (cs : List Char) : Option (List Char × List Char) :=
  match cs with
  | '0' :: rest => some (['0'], rest)
  | _ =>
    match spanDigits cs with
    | ([], _) => none
    | found => some found

/-- The digits behind a decimal point; without a point there are none. -/
def readFraction : List Char → Option (List Char × List Char)
  | '.' :: rest =>
    match spanDigits rest with
    | ([], _) => none
    | found => some found
  | cs => some ([], cs)

/-- The spelling and the value of an exponent; without the letter there is none. -/
def readExponent (cs : List Char) : Option (Option (List Char × Int) × List Char) :=
  match cs with
  | e :: rest =>
    if e = 'e' ∨ e = 'E' then
      let (sign, digits) : List Char × List Char :=
        match rest with
        | '+' :: digits => (['+'], digits)
        | '-' :: digits => (['-'], digits)
        | digits => ([], digits)
      match spanDigits digits with
      | ([], _) => none
      | (found, rest) =>
        let size : Int := decimalValue found
        some (some (e :: sign ++ found, if sign = ['-'] then -size else size), rest)
    else some (none, cs)
  | [] => some (none, [])

/-- An unsigned number and what follows it. -/
def readUnsigned (negative : Bool) (cs : List Char) : Option (Json × List Char) := do
  let (whole, rest) ← readWhole cs
  let (fraction, rest) ← readFraction rest
  let (exponent, rest) ← readExponent rest
  let signed (n : Nat) : Int := if negative then -(n : Int) else n
  if fraction.isEmpty && exponent.isNone then
    return (.int (signed (decimalValue whole)), rest)
  else
    let sign := if negative then ['-'] else []
    let point := if fraction.isEmpty then [] else '.' :: fraction
    let (mark, power) := exponent.getD ([], 0)
    return (.decimal
      { text := String.ofList (sign ++ whole ++ point ++ mark)
        value := some (signed (decimalValue (whole ++ fraction)), power - fraction.length) }, rest)

/-- The words for numbers that are not finite. -/
def notFinite (word : String) : Json :=
  .decimal { text := word, value := none }

/-- The rest of a text behind a word. -/
def dropWord? (word : String) (cs : List Char) : Option (List Char) :=
  if word.toList.isPrefixOf cs then some (cs.drop word.length) else none

/-- A number and what follows it. -/
def readNumber : List Char → Option (Json × List Char)
  | '-' :: rest =>
    match dropWord? "Infinity" rest with
    | some rest => some (notFinite "-Infinity", rest)
    | none => readUnsigned true rest
  | cs => readUnsigned false cs

/-- A word that is a value, or else a number. -/
def readScalar (cs : List Char) : Option (Json × List Char) :=
  match dropWord? "null" cs, dropWord? "true" cs, dropWord? "false" cs with
  | some rest, _, _ => some (.null, rest)
  | none, some rest, _ => some (.bool true, rest)
  | none, none, some rest => some (.bool false, rest)
  | none, none, none =>
    match dropWord? "NaN" cs, dropWord? "Infinity" cs with
    | some rest, _ => some (notFinite "NaN", rest)
    | none, some rest => some (notFinite "Infinity", rest)
    | none, none => readNumber cs

/-! ### Nested values -/

mutual

/-- A value at the start of a text, and what follows it; every step down takes a character, so
`fuel` beyond the length of the text is never used up. -/
def readValue : (fuel : Nat) → List Char → Option (Json × List Char)
  | 0, _ => none
  | fuel + 1, cs =>
    match skipSpace cs with
    | '"' :: rest => (readString rest).map fun (text, rest) => (.str (String.ofList text), rest)
    | '[' :: rest =>
      match skipSpace rest with
      | ']' :: rest => some (.arr [], rest)
      | rest => (readItems fuel rest).map fun (items, rest) => (.arr items, rest)
    | '\x7b' :: rest =>
      match skipSpace rest with
      | '\x7d' :: rest => some (.obj [], rest)
      | rest => (readMembers fuel rest).map fun (members, rest) => (.obj members, rest)
    | cs => readScalar cs

/-- The items of a list up to its closing bracket, at least one. -/
def readItems : (fuel : Nat) → List Char → Option (List Json × List Char)
  | 0, _ => none
  | fuel + 1, cs =>
    match readValue fuel cs with
    | none => none
    | some (item, rest) =>
      match skipSpace rest with
      | ']' :: rest => some ([item], rest)
      | ',' :: rest => (readItems fuel rest).map fun (items, rest) => (item :: items, rest)
      | _ => none

/-- The members of an object up to its closing brace, at least one. -/
def readMembers : (fuel : Nat) → List Char → Option (List (String × Json) × List Char)
  | 0, _ => none
  | fuel + 1, cs =>
    match skipSpace cs with
    | '"' :: rest =>
      match readString rest with
      | none => none
      | some (key, rest) =>
        match skipSpace rest with
        | ':' :: rest =>
          match readValue fuel rest with
          | none => none
          | some (value, rest) =>
            match skipSpace rest with
            | '\x7d' :: rest => some ([(String.ofList key, value)], rest)
            | ',' :: rest =>
              (readMembers fuel rest).map fun (members, rest) =>
                ((String.ofList key, value) :: members, rest)
            | _ => none
        | _ => none
    | _ => none

end

/-- The value that a whole text spells, if it spells one. -/
def parse? (cs : List Char) : Option Json :=
  match readValue (2 * cs.length + 2) cs with
  | some (value, rest) => if (skipSpace rest).isEmpty then some value else none
  | none => none

end PsetCompiler.Json
