import PsetCompiler.Entity.Forest
import PsetCompiler.Text.Split

/-!
# Schemas from declarations

A schema may also be given as a list of declarations, of entities and of enumerations. Declarations
of other kinds are passed over.

## Main definitions

* `Declaration` — a declaration.
* `readDeclarations` — the forest of declarations.
-/

namespace PsetCompiler

/-- A declaration of a schema. -/
inductive Declaration where
  /-- An entity with the names of its attributes and of their types, as far as they have one. -/
  | entity (name : String) (supertype : Option String) (isAbstract : Bool)
      (attributes : List (String × Option String))
  | enumeration (name : String) (items : List String)
  | other
deriving DecidableEq, Repr

namespace Declaration

/-- The type of the first typed attribute that tells a predefined type. -/
def typeEnum? (attributes : List (String × Option String)) : Option String :=
  attributes.findSome? fun a => if a.1 = "PredefinedType" then a.2 else none

/-- The entity that a declaration declares. -/
def record? : Declaration → Option EntityRecord
  | .entity name parent isAbstract attributes =>
    some { name, parent, isAbstract, predefinedTypeEnum := typeEnum? attributes }
  | _ => none

/-- The enumeration that a declaration declares, with its values in capitals. -/
def enumeration? : Declaration → Option (String × List String)
  | .enumeration name items =>
    if Text.endsWith "Enum" name then some (name, items.map Text.upper) else none
  | _ => none

end Declaration

/-- The forest of declarations; the version defaults to the name of the schema. -/
def readDeclarations (schema : String) (declarations : List Declaration)
    (version : Option String := none) : Report Forest := do
  let enumerations := (declarations.filterMap Declaration.enumeration?).foldl
    (fun found (name, values) => insertEntry found name values) []
  let forest ← Forest.ofRecords (Text.upper ((version.filter (· ≠ "")).getD schema))
    (declarations.filterMap Declaration.record?) enumerations
  report (.declarationsRead schema forest.size)
  return forest

end PsetCompiler
