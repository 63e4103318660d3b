import PsetCompiler.Entity.Document
import PsetCompiler.Report
import PsetCompiler.Text.Letter
import PsetCompiler.Text.Order

/-!
# Inheritance forests

The entities of one schema version and the links from entities to their parents. Entities are found
by the case folding of their names. The links are kept as one list in the order in which they were
made; the parent of an entity and the children of an entity are both read from it, so that they
never disagree.

## Main definitions

* `Entity`, `Forest` — an entity, and all entities of a version with their links.
* `Forest.key?`, `Forest.entity?` — an entity found by its name.
* `Forest.parent?`, `Forest.children` — the two readings of the links.
* `Forest.ancestors`, `Forest.descendants` — along the links, upward and downward.
* `Forest.add` — an entity declared, with a parent or without one.
-/

namespace PsetCompiler

/-- An entity of a schema. -/
structure Entity where
  name : String
  isAbstract : Bool := false
  /-- The enumeration of its predefined types. -/
  predefinedTypeEnum : Option String := none
deriving DecidableEq, Repr

/-- The entities of one schema version and their links. -/
structure Forest where
  version : String
  /-- The entities under the case folding of their names, in the order of their first mention. -/
  entities : List (String × Entity) := []
  /-- The keys of children and parents, in the order in which the links were made. -/
  links : List (String × String) := []
  /-- The values of the enumerations of predefined types. -/
  predefinedTypeEnums : List (String × List String) := []
deriving DecidableEq, Repr

/-- The name of the root of all schema types, which is no entity. -/
def schemaRoot : String := "Entity"

/-- A name is that of an entity if it begins so. -/
def isEntityName (name : String) : Bool :=
  Text.startsWith "Ifc" name

namespace Forest

/-- How many entities there are. -/
def size (forest : Forest) : Nat :=
  forest.entities.length

/-! ### Finding entities -/

/-- The entity under a key. -/
def entity? (forest : Forest) (key : String) : Option Entity :=
  forest.entities.lookup key

/-- The key of the entity with a name, in any case. The empty name finds nothing. -/
def key? (forest : Forest) (name : String) : Option String :=
  if name = "" then none
  else if (forest.entity? (Text.foldCase name)).isSome then some (Text.foldCase name)
  else none

/-- The entity with a name, in any case. -/
def find? (forest : Forest) (name : String) : Option Entity :=
  (forest.key? name).bind forest.entity?

/-- There is an entity with a name, in any case. -/
def contains (forest : Forest) (name : String) : Bool :=
  (forest.key? name).isSome

/-- The name of the entity under a key. -/
def nameOf (forest : Forest) (key : String) : String :=
  ((forest.entity? key).map (·.name)).getD key

/-! ### Along the links -/

/-- The key of the parent. -/
def parent? (forest : Forest) (key : String) : Option String :=
  forest.links.lookup key

/-- The keys of the children, in the order in which they were linked. -/
def children (forest : Forest) (key : String) : List String :=
  (forest.links.filter (·.2 == key)).map (·.1)

/-- The keys above an entity, nearest first, at most `bound` of them. -/
def climb (forest : Forest) : (bound : Nat) → String → List String
  | 0, _ => []
  | bound + 1, key =>
    match forest.parent? key with
    | none => []
    | some parent => parent :: forest.climb bound parent

/-- The keys of all ancestors, nearest first. A way up takes every link at most once. -/
def ancestors (forest : Forest) (key : String) : List String :=
  forest.climb forest.links.length key

/-- The keys below an entity, depth first, down to `bound` levels. -/
def descend (forest : Forest) : (bound : Nat) → String → List String
  | 0, _ => []
  | bound + 1, key =>
    (forest.children key).flatMap fun child => child :: forest.descend bound child

/-- The keys of all descendants, depth first. A way down takes every link at most once. -/
def descendants (forest : Forest) (key : String) : List String :=
  forest.descend forest.links.length key

/-! ### Declaring entities -/

/-- The forest with an entity of a name, which is made if there is none. -/
def ensure (forest : Forest) (name : String) : Forest :=
  if (forest.entity? (Text.foldCase name)).isSome then forest
  else { forest with entities := forest.entities ++ [(Text.foldCase name, { name })] }

/-- The entity with what a declaration says of it; an enumeration is only ever named anew. -/
def Entity.declared (e : Entity) (predefinedTypeEnum : Option String) (isAbstract : Bool) :
    Entity :=
  { e with
    isAbstract
    predefinedTypeEnum :=
      match predefinedTypeEnum with
      | some enumeration => if enumeration = "" then e.predefinedTypeEnum else some enumeration
      | none => e.predefinedTypeEnum }

/-- The forest with the entity of a key changed. -/
def modify (forest : Forest) (key : String) (f : Entity → Entity) : Forest :=
  { forest with
    entities := forest.entities.map fun entry =>
      if entry.1 == key then (key, f entry.2) else entry }

/-- The forest with a link from a child to a parent; a link of that child to another parent goes. -/
def link (forest : Forest) (child parent : String) : Forest :=
  if forest.parent? child = some parent then forest
  else { forest with links := forest.links.filter (·.1 != child) ++ [(child, parent)] }

/-- The parent of a declaration as far as it is an entity. -/
def declaredParent (name : String) (parent : Option String) : Report (Option String) :=
  match parent with
  | none => return none
  | some parent =>
    if parent = "" ∨ parent = schemaRoot then return none
    else if isEntityName parent then return some parent
    else do
      report (.ignoredParent parent name)
      return none

/-- The declaration of an entity, with a parent or without one. A parent that was not declared yet
is made, to be completed by its own declaration. A link that would close a cycle is refused. A name
that is not that of an entity changes nothing. -/
def add (forest : Forest) (name : String) (parent : Option String := none)
    (predefinedTypeEnum : Option String := none) (isAbstract : Bool := false) : Report Forest :=
  if isEntityName name then do
    let parent ← declaredParent name parent
    let forest :=
      match parent with
      | some parent => forest.ensure parent
      | none => forest
    let key := Text.foldCase name
    let forest := (forest.ensure name).modify key (Entity.declared · predefinedTypeEnum isAbstract)
    match parent with
    | none => return forest
    | some parent =>
      let above := Text.foldCase parent
      if above = key ∨ (forest.ancestors above).contains key then do
        report (.refusedCycle name parent)
        return forest
      else
        return forest.link key above
  else do
    report (.ignoredEntity name)
    return forest

/-- The declarations of a list of records, in order. -/
def addRecords (forest : Forest) : List EntityRecord → Report Forest
  | [] => return forest
  | r :: rest => do
    let forest ← forest.add r.name r.parent r.predefinedTypeEnum r.isAbstract
    forest.addRecords rest

/-- The forest of a version with the declarations of a list of records. -/
def ofRecords (version : String) (records : List EntityRecord)
    (predefinedTypeEnums : List (String × List String) := []) : Report Forest := do
  let forest ← addRecords { version } records
  return { forest with predefinedTypeEnums }

/-- The forest of a document. -/
def ofDocument (document : SchemaDocument) : Report Forest :=
  ofRecords document.version document.entities document.predefinedTypeEnums

end Forest

end PsetCompiler
