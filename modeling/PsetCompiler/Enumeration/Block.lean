import PsetCompiler.Report
import PsetCompiler.Source.Name
import PsetCompiler.Text.Digit

/-!
# Enumerations of generated sources

The values of an enumeration become members with identifiers. Points and hyphens are left out, a
leading digit gets an underscore in front, and a value of nothing but digits keeps its number. A
value whose identifier is empty or used before is left out, with a report. No block comes of values
one of which has more digits than a number may have.

## Main definitions

* `EnumMember`, `EnumBlock` — a member, and a named list of members.
* `memberOf` — the member of a value.
* `isOverlong` — a value is a number with too many digits.
* `buildBlock` — the block of a name and its values.
-/

namespace PsetCompiler

/-- A member of an enumeration. -/
structure EnumMember where
  identifier : String
  /-- The value as it was given. -/
  value : String
  number : Option Nat := none
deriving DecidableEq, Repr

/-- A named list of members. -/
structure EnumBlock where
  name : String
  members : List EnumMember := []
deriving DecidableEq, Repr

/-- The characters with an underscore in front of a leading digit. -/
def guardDigit (cs : List Char) : List Char :=
  match cs with
  | c :: _ => if Text.isAsciiDigit c then '_' :: cs else cs
  | [] => []

/-- The identifier of a value without white space at its ends. -/
def memberName (raw : List Char) : List Char :=
  guardDigit (nameChars (raw.filter fun c => c ≠ '.' && c ≠ '-'))

/-- The characters of a value without white space at its ends. -/
def rawValue (value : String) : List Char :=
  Text.trimBy Text.isBlank value.toList

/-- A value is a number with too many digits to be read. -/
def isOverlong (value : String) : Bool :=
  (rawValue value).all Text.isAsciiDigit && Text.digitLimit < (rawValue value).length

/-- The number of a value of nothing but digits; an overlong one is never asked for its number. -/
def memberNumber (raw : List Char) : Option Nat :=
  if raw ≠ [] ∧ raw.all Text.isAsciiDigit then some (Text.decimalValue raw) else none

/-- The member of a value that is not overlong. -/
def memberOf (value : String) : EnumMember :=
  let raw := rawValue value
  { identifier := String.ofList (memberName raw), value, number := memberNumber raw }

/-- The words that are no identifiers where enumerations are classes. -/
def reservedWords : List String :=
  ["False", "None", "True", "and", "as", "assert", "async", "await", "break", "class", "continue",
    "def", "del", "elif", "else", "except", "finally", "for", "from", "global", "if", "import",
    "in", "is", "lambda", "nonlocal", "not", "or", "pass", "raise", "return", "try", "while",
    "with", "yield"]

/-- The member of a value in a language; a reserved word gets an underscore behind it. -/
def memberIn (language : SourceLanguage) (value : String) : EnumMember :=
  let member := memberOf value
  if language = .python ∧ reservedWords.contains member.identifier then
    { member with identifier := member.identifier ++ "_" }
  else member

/-- The members of values that are not overlong, given the identifiers that are used already. -/
def buildMembers (name : String) (language : SourceLanguage) (used : List String) :
    List String → Report (List EnumMember)
  | [] => return []
  | value :: rest => do
    let member := memberIn language value
    if member.identifier = "" ∨ used.contains member.identifier then do
      report (.skippedItem name value)
      buildMembers name language used rest
    else do
      let members ← buildMembers name language (used ++ [member.identifier]) rest
      return member :: members

/-- The block of a name and its values. Values are taken up to the first one that is overlong; if
there is one, the block fails with it. -/
def buildBlock (name : String) (values : List String) (language : SourceLanguage := .csharp) :
    Attempt EnumBlock := do
  let members ← buildMembers name language [] (values.takeWhile (!isOverlong ·))
  match values.find? isOverlong with
  | some value => throw (.refusedInputs (.read (rawValue value).length))
  | none => return { name := sourceName name, members }

end PsetCompiler
