import PsetCompiler.Json
import PsetCompiler.Text.Quoted

/-!
# Writing JSON

Files are written with an indent of two blanks and one item a line; characters beyond ASCII stand
as themselves there. A line of JSON in ASCII is the other written form.

## Main definitions

* `Json.quote`, `Json.quoteAscii` — a text as a JSON string.
* `Json.render` — a value over several lines.
* `Json.line` — a value on one line, in ASCII.
-/

namespace PsetCompiler.Json

open Text (hexDigits)

/-- The mark of a code unit: four hexadecimal digits behind `\u`. -/
def unitMark (unit : Nat) : List Char :=
  '\\' :: 'u' :: hexDigits 4 unit

/-- A character that no JSON string may hold as itself, or the character. -/
def escapeChar (c : Char) : List Char :=
  match c with
  | '"' => ['\\', '"']
  | '\\' => ['\\', '\\']
  | '\x08' => ['\\', 'b']
  | '\x0c' => ['\\', 'f']
  | '\n' => ['\\', 'n']
  | '\r' => ['\\', 'r']
  | '\t' => ['\\', 't']
  | c => if c.toNat < 0x20 then unitMark c.toNat else [c]

/-- A character in ASCII; beyond the basic plane it takes the marks of a surrogate pair. -/
def escapeAscii (c : Char) : List Char :=
  if c.toNat < 0x7F then escapeChar c
  else if c.toNat < 0x10000 then unitMark c.toNat
  else
    unitMark (0xD800 + (c.toNat - 0x10000) / 1024) ++
      unitMark (0xDC00 + (c.toNat - 0x10000) % 1024)

/-- A text as a JSON string. -/
def quote (cs : List Char) : List Char :=
  '"' :: cs.flatMap escapeChar ++ ['"']

/-- A text as a JSON string in ASCII. -/
def quoteAscii (cs : List Char) : List Char :=
  '"' :: cs.flatMap escapeAscii ++ ['"']

/-- A line feed and the indent of a level. -/
def newLine (level : Nat) : List Char :=
  '\n' :: List.replicate (2 * level) ' '

mutual

/-- A value whose first line is already indented to a level. -/
def renderAt (level : Nat) : Json → List Char
  | .null => "null".toList
  | .bool true => "true".toList
  | .bool false => "false".toList
  | .int n => (toString n).toList
  | .decimal d => d.text.toList
  | .str s => quote s.toList
  | .arr [] => ['[', ']']
  | .arr (item :: items) =>
    '[' :: newLine (level + 1) ++ renderAt (level + 1) item ++ renderItems (level + 1) items ++
      newLine level ++ [']']
  | .obj [] => ['\x7b', '\x7d']
  | .obj ((key, value) :: members) =>
    '\x7b' :: newLine (level + 1) ++ quote key.toList ++ ':' :: ' ' :: renderAt (level + 1) value ++
      renderMembers (level + 1) members ++ newLine level ++ ['\x7d']

/-- The items after the first. -/
def renderItems (level : Nat) : List Json → List Char
  | [] => []
  | item :: items => ',' :: newLine level ++ renderAt level item ++ renderItems level items

/-- The members after the first. -/
def renderMembers (level : Nat) : List (String × Json) → List Char
  | [] => []
  | (key, value) :: members =>
    ',' :: newLine level ++ quote key.toList ++ ':' :: ' ' :: renderAt level value ++
      renderMembers level members

end

/-- A value over several lines. -/
def render (value : Json) : String :=
  String.ofList (renderAt 0 value)

mutual

/-- A value on one line, in ASCII. -/
def lineChars : Json → List Char
  | .null => "null".toList
  | .bool true => "true".toList
  | .bool false => "false".toList
  | .int n => (toString n).toList
  | .decimal d => d.text.toList
  | .str s => quoteAscii s.toList
  | .arr [] => ['[', ']']
  | .arr (item :: items) => '[' :: lineChars item ++ lineItems items ++ [']']
  | .obj [] => ['\x7b', '\x7d']
  | .obj ((key, value) :: members) =>
    '\x7b' :: quoteAscii key.toList ++ ':' :: lineChars value ++ lineMembers members ++ ['\x7d']

/-- The items after the first, on the same line. -/
def lineItems : List Json → List Char
  | [] => []
  | item :: items => ',' :: lineChars item ++ lineItems items

/-- The members after the first, on the same line. -/
def lineMembers : List (String × Json) → List Char
  | [] => []
  | (key, value) :: members =>
    ',' :: quoteAscii key.toList ++ ':' :: lineChars value ++ lineMembers members

end

/-- A value on one line, in ASCII. -/
def line (value : Json) : String :=
  String.ofList (lineChars value)

end PsetCompiler.Json
