import PsetCompiler.Json.Limit
import PsetCompiler.Json.Rounded
import PsetCompiler.Json.Parser
import PsetCompiler.Text.Letter
import PsetCompiler.Text.Spelled

/-!
# Reading records from JSON

A record is read from the members of an object. Every problem of a value is reported, in the order
in which the fields are declared, with the place where it was found. Numbers and flags are also
taken from the texts that spell them; texts are never made from numbers. Members that no field asks
for are passed over.

## Main definitions

* `ProblemKind`, `Problem` — what is wrong with a value, and where.
* `Checked` — a value read, or all its problems.
* `Checked.required`, `Checked.optional` — the fields of a record.
* `readText`, `readFlag`, `readWholeNumber`, `readList`, `readMap`, `readRecord` — the readers of
  the kinds of values.
-/

namespace PsetCompiler

/-- What is wrong with a value. -/
inductive ProblemKind where
  | jsonInvalid
  | missing
  | recordType
  | taggedType
  | textType
  | listType
  | mapType
  | pathType
  | flagType
  | flagText
  | numberType
  | numberText
  | numberFraction
  | numberSize
  | numberNotFinite
  | choice
  | literal
  | tagMissing
  | tagUnknown
deriving DecidableEq, Repr

/-- The code under which a problem is reported. -/
def ProblemKind.code : ProblemKind → String
  | .jsonInvalid => "json_invalid"
  | .missing => "missing"
  | .recordType => "model_type"
  | .taggedType => "model_attributes_type"
  | .textType => "string_type"
  | .listType => "list_type"
  | .mapType => "dict_type"
  | .pathType => "path_type"
  | .flagType => "bool_type"
  | .flagText => "bool_parsing"
  | .numberType => "int_type"
  | .numberText => "int_parsing"
  | .numberFraction => "int_from_float"
  | .numberSize => "int_parsing_size"
  | .numberNotFinite => "finite_number"
  | .choice => "enum"
  | .literal => "literal_error"
  | .tagMissing => "union_tag_not_found"
  | .tagUnknown => "union_tag_invalid"

/-- The kind under which a problem of a JSON text is reported. In such a text a record that a tag
chooses can only be an object, so anything else is reported as what is not a map. -/
def ProblemKind.inText : ProblemKind → ProblemKind
  | .taggedType => .mapType
  | kind => kind

/-- A problem and the steps that lead to its place. -/
structure Problem where
  kind : ProblemKind
  place : List String := []
deriving DecidableEq, Repr

/-- A value read, or all its problems in order. -/
inductive Checked (α : Type) where
  | ok (value : α)
  | bad (problems : List Problem)
deriving DecidableEq, Repr

namespace Checked

variable {α β : Type}

/-- One problem, found here. -/
def problem (kind : ProblemKind) : Checked α :=
  .bad [{ kind }]

/-- The image of the value. -/
def map (f : α → β) : Checked α → Checked β
  | .ok a => .ok (f a)
  | .bad problems => .bad problems

/-- A function and its argument; the problems of both are kept. -/
def app : Checked (α → β) → Checked α → Checked β
  | .ok f, .ok a => .ok (f a)
  | .ok _, .bad later => .bad later
  | .bad problems, .ok _ => .bad problems
  | .bad problems, .bad later => .bad (problems ++ later)

instance : Applicative Checked where
  pure := .ok
  map := map
  seq f a := app f (a ())

/-- The reading done one step further inside. -/
def inside (step : String) : Checked α → Checked α
  | .ok a => .ok a
  | .bad problems => .bad (problems.map fun p => { p with place := step :: p.place })

/-- The reading of a JSON text, with its problems reported as those of a text. -/
def asText : Checked α → Checked α
  | .ok a => .ok a
  | .bad problems => .bad (problems.map fun p => { p with kind := p.kind.inText })

/-- The items of a list, each read under its index. -/
def items (read : Json → Checked α) : (index : Nat) → List Json → Checked (List α)
  | _, [] => .ok []
  | index, item :: rest =>
    app ((read item).inside (toString index) |>.map List.cons) (items read (index + 1) rest)

/-- The members of an object, each read under its key. -/
def members (read : Json → Checked α) : List (String × Json) → Checked (List (String × α))
  | [] => .ok []
  | (key, value) :: rest =>
    app ((read value).inside key |>.map fun a => ((key, a) :: ·)) (members read rest)

/-- The field under a key, which has to be there. -/
def required (key : String) (read : Json → Checked α) (fields : List (String × Json)) : Checked α :=
  match Json.lookupLast key fields with
  | some value => (read value).inside key
  | none => (problem .missing).inside key

/-- The field under a key, or a default. -/
def optional (key : String) (default : α) (read : Json → Checked α)
    (fields : List (String × Json)) : Checked α :=
  match Json.lookupLast key fields with
  | some value => (read value).inside key
  | none => .ok default

@[simp] theorem required_eq {key : String} {read : Json → Checked α} {fields : List (String × Json)}
    {value : Json} (h : Json.lookupLast key fields = some value) :
    required key read fields = (read value).inside key := by
  simp [required, h]

end Checked

/-! ### Readers -/

section Readers

variable {α : Type}

/-- A text. -/
def readText : Json → Checked String
  | .str s => .ok s
  | _ => .problem .textType

/-- Nothing, or what the reader reads. -/
def readNullable (read : Json → Checked α) : Json → Checked (Option α)
  | .null => .ok none
  | value => (read value).map some

/-- A list. -/
def readList (read : Json → Checked α) : Json → Checked (List α)
  | .arr items => Checked.items read 0 items
  | _ => .problem .listType

/-- The association list in which a later entry replaces an earlier one at its place. -/
def insertEntry (entries : List (String × α)) (key : String) (a : α) : List (String × α) :=
  if entries.any (·.1 == key) then
    entries.map fun entry => if entry.1 == key then (key, a) else entry
  else
    entries ++ [(key, a)]

/-- A map from texts, in the order of its keys' first appearance. -/
def readMap (read : Json → Checked α) : Json → Checked (List (String × α))
  | .obj members =>
    (Checked.members read members).map
      (·.foldl (fun entries (key, a) => insertEntry entries key a) [])
  | _ => .problem .mapType

/-- A record, from its fields. -/
def readRecord (read : List (String × Json) → Checked α) : Json → Checked α
  | .obj fields => read fields
  | _ => .problem .recordType

/-- One of some words. -/
def readLiteral (words : List (String × α)) : Json → Checked α
  | .str s =>
    match words.lookup s with
    | some a => .ok a
    | none => .problem .literal
  | _ => .problem .literal

/-- The words that spell a flag, and the flag. -/
def flagWords : List (String × Bool) :=
  [("1", true), ("true", true), ("t", true), ("yes", true), ("y", true), ("on", true),
    ("0", false), ("false", false), ("f", false), ("no", false), ("n", false), ("off", false)]

/-- The numbers that 64 bits with a sign hold. -/
def fitsWord (n : Int) : Bool :=
  -(Nat.pow 2 63 : Int) ≤ n ∧ n < Nat.pow 2 63

/-- The whole number that a decimal is, provided that it lies strictly between the bounds of 64 bits
with a sign. -/
def Decimal.asWhole (d : Decimal) : Checked Int :=
  match d.nearest? with
  | none => .problem .numberNotFinite
  | some b =>
    match b.whole? with
    | none => .problem .numberFraction
    | some n => if -(Nat.pow 2 63 : Int) < n ∧ n < Nat.pow 2 63 then .ok n else .problem .numberSize

/-- A flag: a truth value, the numbers zero and one, or a word for either. -/
def readFlag : Json → Checked Bool
  | .bool b => .ok b
  | .str s =>
    match flagWords.lookup (Text.asciiLower s) with
    | some b => .ok b
    | none => .problem .flagText
  | .int n =>
    if n = 0 then .ok false
    else if n = 1 then .ok true
    else if fitsWord n then .problem .flagText
    else .problem .flagType
  | .decimal d =>
    match d.asWhole with
    | .ok n => if n = 0 then .ok false else if n = 1 then .ok true else .problem .flagText
    | .bad _ => .problem .flagType
  | _ => .problem .flagType

/-- A whole number: a number without fraction, a flag, or a text that spells one. -/
def readWholeNumber : Json → Checked Int
  | .int n => .ok n
  | .bool b => .ok (if b then 1 else 0)
  | .decimal d => d.asWhole
  | .str s =>
    match Text.spelling s with
    | .number n => .ok n
    | .tooLong => .problem .numberSize
    | .none => .problem .numberText
  | _ => .problem .numberType

/-- Any value. -/
def readAny (value : Json) : Checked Json :=
  .ok value

/-- A JSON text read as a value. -/
def readJsonText (read : Json → Checked α) (cs : List Char) : Checked α :=
  match (Json.parse? cs).filter Json.isWithinLimits with
  | some value => (read value).asText
  | none => .problem .jsonInvalid

end Readers

end PsetCompiler
