/-!
# JSON values

The values of JSON texts. Members keep the order in which they are written, and a number written
with a fraction or an exponent keeps its spelling.

## Main definitions

* `Decimal` — a number written with a fraction or an exponent.
* `Json` — a JSON value.
* `Json.member?` — the member that an object holds under a name; of two, the later one.
-/

namespace PsetCompiler

/-- A number written with a fraction or an exponent, or one of the words for no finite number. -/
structure Decimal where
  /-- The number as it is written. -/
  text : String
  /-- The number is `mantissa * 10 ^ exponent`; `none` when it is not finite. -/
  value : Option (Int × Int)
deriving DecidableEq, Repr

/-- A JSON value. -/
inductive Json where
  | null
  | bool (value : Bool)
  | int (value : Int)
  | decimal (number : Decimal)
  | str (text : String)
  | arr (items : List Json)
  | obj (members : List (String × Json))
deriving Repr

namespace Json

/-- An association list as an object with a value for every key. -/
def ofPairs {α : Type} (value : α → Json) (pairs : List (String × α)) : Json :=
  .obj (pairs.map fun (key, a) => (key, value a))

/-- A list of texts. -/
def texts (items : List String) : Json :=
  .arr (items.map .str)

/-- A text or nothing. -/
def text? : Option String → Json
  | some s => .str s
  | none => .null

/-- A number of things. -/
def count (n : Nat) : Json :=
  .int n

/-- The member that an object holds under a name; the later one wins. -/
def lookupLast (key : String) (members : List (String × Json)) : Option Json :=
  members.reverse.lookup key

/-- The member of a value under a name, if it is an object that holds one. -/
def member? (key : String) : Json → Option Json
  | .obj members => lookupLast key members
  | _ => none

/-- The value holds nothing. -/
def isNull : Json → Bool
  | .null => true
  | _ => false

mutual

/-- The value without the members that hold nothing, inside as well. -/
def dropNulls : Json → Json
  | .arr items => .arr (dropNullsItems items)
  | .obj members => .obj (dropNullsMembers members)
  | value => value

/-- Items without the members that hold nothing inside. -/
def dropNullsItems : List Json → List Json
  | [] => []
  | item :: rest => item.dropNulls :: dropNullsItems rest

/-- Members without those that hold nothing. -/
def dropNullsMembers : List (String × Json) → List (String × Json)
  | [] => []
  | (key, value) :: rest =>
    if value.isNull then dropNullsMembers rest
    else (key, value.dropNulls) :: dropNullsMembers rest

end

end Json

end PsetCompiler
