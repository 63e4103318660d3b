import PsetCompiler.Checked
import PsetCompiler.Text.Split

/-!
# Paths

A path is a root and parts. Reading drops empty parts and single points; two points stay, since
where they lead depends on the folders.

## Main definitions

* `Path`, `Path.ofText`, `Path.text` — a path and its written form.
* `Path.join` — a path inside another; an absolute path stands for itself.
* `Path.name`, `Path.stem`, `Path.parent` — the parts of a path.
-/

namespace PsetCompiler

/-- A path: its root, which is empty for a relative path, and its parts. -/
structure Path where
  root : String := ""
  parts : List String := []
deriving DecidableEq, Repr

namespace Path

/-- The root that a text of leading slashes spells; exactly two slashes are a root of their own. -/
def rootOf (slashes : Nat) : String :=
  match slashes with
  | 0 => ""
  | 2 => "//"
  | _ => "/"

/-- The path that a text spells. -/
def ofText (s : String) : Path :=
  { root := rootOf (s.toList.takeWhile (· = '/')).length
    parts := (Text.split (· = '/') s).filter fun part => part ≠ "" && part ≠ "." }

/-- The written form of a path; the empty path is a point. -/
def text (p : Path) : String :=
  if p.root = "" ∧ p.parts = [] then "." else p.root ++ String.intercalate "/" p.parts

/-- The path starts at the root. -/
def isAbsolute (p : Path) : Bool :=
  p.root ≠ ""

/-- A path inside another one; an absolute path stands for itself. -/
def join (p q : Path) : Path :=
  if q.isAbsolute then q else { p with parts := p.parts ++ q.parts }

/-- A path inside another one, from its written form. -/
def child (p : Path) (s : String) : Path :=
  p.join (ofText s)

/-- The last part of a path, empty if there is none. -/
def name (p : Path) : String :=
  p.parts.getLast?.getD ""

/-- A file name without its ending; a point at either end of the name makes no ending. -/
def stemOf (name : String) : String :=
  let (ending, before) := name.toList.reverse.span (· != '.')
  match before with
  | '.' :: rest => if rest.isEmpty || ending.isEmpty then name else String.ofList rest.reverse
  | _ => name

/-- The last part of a path without its ending. -/
def stem (p : Path) : String :=
  stemOf p.name

/-- The path without its last part. -/
def parent (p : Path) : Path :=
  { p with parts := p.parts.dropLast }

/-- A path, read from its written form. -/
def read : Json → Checked Path
  | .str s => .ok (ofText s)
  | _ => .problem .pathType

/-- A path as JSON. -/
def json (p : Path) : Json :=
  .str p.text

end Path

end PsetCompiler
