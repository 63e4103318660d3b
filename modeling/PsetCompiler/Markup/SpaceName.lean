import PsetCompiler.Markup.Reader

/-!
# Names of namespaces

A namespace is named by a reference to a resource: a scheme, an authority, a path, a query and a
fragment, of which all but the path may be missing. A reference without a scheme is relative.
Readers take the parts from the front of a text.

## Main definitions

* `isPathChar` — the characters of paths.
* `takeAuthority?`, `takeQuery`, `takeFragment` — the parts of references.
* `isFull`, `isRelative` — references with a scheme and without one.
-/

namespace PsetCompiler.Markup.SpaceName

/-- A character without a meaning of its own. -/
def isUnreserved (c : Char) : Bool :=
  c.isAlphanum || "-._~".toList.contains c

/-- A character that separates parts of a part. -/
def isDelimiter (c : Char) : Bool :=
  "!$&'()*+,;=".toList.contains c

/-- A character of a path between slashes, percent signs apart. -/
def isPathChar (c : Char) : Bool :=
  isUnreserved c || isDelimiter c || c == ':' || c == '@'

/-- The rest behind the longest run of characters of a class; two hexadecimal digits have to follow
each percent sign of the run. -/
def dropRun (p : Char → Bool) : List Char → List Char
  | '%' :: a :: b :: rest =>
    if (hexDigit? a).isSome && (hexDigit? b).isSome then dropRun p rest else '%' :: a :: b :: rest
  | c :: rest => if p c && c != '%' then dropRun p rest else c :: rest
  | [] => []

/-- The rest behind the digits of a port, which has to fit into 31 bits. -/
def takePort? (cs : List Char) : Option (List Char) :=
  match digitsNumber? 10 (cs.takeWhile Char.isDigit) with
  | some port => if port < Nat.pow 2 31 then some (cs.dropWhile Char.isDigit) else none
  | none => none

/-- The rest behind the name of a host, which may be empty or stand in brackets. -/
def takeHost? (cs : List Char) : Option (List Char) :=
  match cs with
  | '[' :: rest =>
    match rest.dropWhile (· != ']') with
    | _ :: after => some after
    | [] => none
  | cs => some (dropRun (fun c => isUnreserved c || isDelimiter c) cs)

/-- The rest behind the user that may stand in front of a host. -/
def dropUser (cs : List Char) : List Char :=
  match dropRun (fun c => isUnreserved c || isDelimiter c || c == ':') cs with
  | '@' :: rest => rest
  | _ => cs

/-- The rest behind an authority: a user, a host and a port. -/
def takeAuthority? (cs : List Char) : Option (List Char) := do
  match ← takeHost? (dropUser cs) with
  | ':' :: rest => takePort? rest
  | rest => some rest

/-- The rest behind a path whose parts follow slashes. -/
def dropPath (cs : List Char) : List Char :=
  dropRun (fun c => isPathChar c || c == '/') cs

/-- The rest behind a path that begins with a part of characters of a class, or behind no path. -/
def takePath? (first : Char → Bool) (cs : List Char) : Option (List Char) :=
  match cs with
  | '/' :: '/' :: rest =>
    (takeAuthority? rest).map fun rest => if rest.head? = some '/' then dropPath rest else rest
  | '/' :: rest => some (dropPath rest)
  | cs =>
    let rest := dropRun first cs
    if rest.length < cs.length ∧ rest.head? = some '/' then some (dropPath rest)
    else if rest.length = cs.length ∧ (dropRun isPathChar cs).length < cs.length then none
    else some rest

/-- The rest behind a query, if there is one. -/
def takeQuery (cs : List Char) : List Char :=
  match cs with
  | '?' :: rest => dropRun (fun c => isPathChar c || c == '/' || c == '?') rest
  | cs => cs

/-- The rest behind a fragment, if there is one. -/
def takeFragment (cs : List Char) : List Char :=
  match cs with
  | '#' :: rest => dropRun (fun c => isPathChar c || "/?[]".toList.contains c) rest
  | cs => cs

/-- Nothing is left behind a path whose first part is of a class, a query and a fragment. -/
def isReference (first : Char → Bool) (cs : List Char) : Bool :=
  match takePath? first cs with
  | some rest => (takeFragment (takeQuery rest)).isEmpty
  | none => false

/-- A character of a scheme. -/
def isSchemeChar (c : Char) : Bool :=
  c.isAlphanum || c == '+' || c == '-' || c == '.'

/-- A reference with a scheme. -/
def isFull (name : String) : Bool :=
  match name.toList.dropWhile isSchemeChar with
  | ':' :: rest => name.toList.head?.any Char.isAlpha && isReference isPathChar rest
  | _ => false

/-- A reference without a scheme; its first part has no colon. -/
def isRelative (name : String) : Bool :=
  isReference (fun c => isPathChar c && c != ':') name.toList

end PsetCompiler.Markup.SpaceName
