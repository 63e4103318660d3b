import PsetCompiler.Entity.Forest

/-!
# Questions to a forest

Questions about names that are not in the forest have an empty or a negative answer.

## Main definitions

* `Forest.isSubtypeOf`, `Forest.isSupertypeOf` — the two readings of inheritance.
* `Forest.supertypes` — the ancestors up to the first stop.
* `Forest.checked?` — both of these for two entities, as a check shows them.
* `Forest.branch` — an entity and all its descendants.
* `Forest.predefinedTypes` — the values of the predefined types of an entity.
* `Forest.outline`, `Forest.dump` — the forest as an indented list.
* `Forest.document` — the written form of the forest.
-/

namespace PsetCompiler

namespace Forest

/-- The entities in order of their names. -/
def sorted (forest : Forest) : List (String × Entity) :=
  Text.sortBy (·.2.name) forest.entities

/-- The keys of the entities without a parent, in order of their names. -/
def roots (forest : Forest) : List String :=
  (forest.sorted.filter fun entry => (forest.parent? entry.1).isNone).map (·.1)

/-- The keys of the children in order of their names. -/
def sortedChildren (forest : Forest) (key : String) : List String :=
  Text.sortBy forest.nameOf (forest.children key)

/-! ### Inheritance -/

/-- One entity inherits from another, or equals it when the question is not strict. -/
def isSubtypeOf (forest : Forest) (entity supertype : String) (strict : Bool := true) : Bool :=
  match forest.key? entity, forest.key? supertype with
  | some key, some target =>
    if key = target then !strict else (forest.ancestors key).contains target
  | _, _ => false

/-- One entity is above another, or equals it when the question is not strict. -/
def isSupertypeOf (forest : Forest) (entity subtype : String) (strict : Bool := true) : Bool :=
  match forest.key? entity, forest.key? subtype with
  | some key, some target =>
    if key = target then !strict else (forest.descendants key).contains target
  | _, _ => false

/-- The items of a list up to the first one of a class, which is the last one kept. -/
def throughFirst (stop : String → Bool) : List String → List String
  | [] => []
  | name :: rest => if stop name then [name] else name :: throughFirst stop rest

/-- The names of the ancestors, nearest first, up to the first of the stops. An entity that is
itself a stop has none. -/
def supertypes (forest : Forest) (entity : String) (stops : List String) : List String :=
  match forest.key? entity with
  | none => []
  | some key =>
    let isStop (name : String) : Bool := (stops.map Text.foldCase).contains (Text.foldCase name)
    if isStop (forest.nameOf key) then []
    else throughFirst isStop ((forest.ancestors key).map forest.nameOf)

/-- Whether one entity inherits from another, with the supertypes up to that one; nothing if the
first is no entity. -/
def checked? (forest : Forest) (entity other : String) (strict : Bool) :
    Option (Bool × List String) :=
  if forest.contains entity then
    some (forest.isSubtypeOf entity other strict, forest.supertypes entity [other])
  else none

/-- The names of an entity and all its descendants, depth first. -/
def branch (forest : Forest) (entity : String) : List String :=
  match forest.key? entity with
  | none => []
  | some key => (key :: forest.descendants key).map forest.nameOf

/-! ### Predefined types -/

/-- The values of an enumeration found by the case folding of its name; the last one counts. -/
def enumValues? (forest : Forest) (enumeration : String) : Option (List String) :=
  (forest.predefinedTypeEnums.reverse.find? fun entry => Text.sameFolded entry.1 enumeration).map
    (·.2)

/-- The values of the predefined types of an entity: those of the enumeration it names, or else of
one that is named after it. -/
def predefinedTypes (forest : Forest) (entity : String) : List String :=
  match forest.find? entity with
  | none => []
  | some e =>
    let candidates := e.predefinedTypeEnum.toList ++ [e.name ++ "Enum", e.name ++ "TypeEnum"]
    ((candidates.filter (· ≠ "")).findSome? forest.enumValues?).getD []

/-! ### The indented list -/

/-- The depths and entities of a branch from a key on, down to `bound` levels. -/
def outlineFrom (forest : Forest) : (bound : Nat) → (depth : Nat) → String → List (Nat × Entity)
  | 0, _, _ => []
  | bound + 1, depth, key =>
    (forest.entity? key).toList.map (depth, ·) ++
      (forest.sortedChildren key).flatMap (forest.outlineFrom bound (depth + 1))

/-- The depths and entities of the whole forest, or of the branch of one entity. -/
def outline (forest : Forest) (root : Option String := none) : List (Nat × Entity) :=
  let starts :=
    match root with
    | none => forest.roots
    | some name => (forest.key? name).toList
  starts.flatMap (forest.outlineFrom (forest.links.length + 1) 0)

/-- An entity of the indented list. -/
def outlineLine (entry : Nat × Entity) : String :=
  String.ofList (List.replicate entry.1 '\t') ++ entry.2.name ++
    (if entry.2.isAbstract then " (ABS)" else "")

/-- The indented list of the whole forest, or of the branch of one entity. -/
def dump (forest : Forest) (root : Option String := none) : String :=
  String.join ((forest.outline root).map fun entry => outlineLine entry ++ "\n")

/-! ### The written form -/

/-- An entity with its parent as it is written. -/
def recordOf (forest : Forest) (key : String) (e : Entity) : EntityRecord :=
  { name := e.name
    parent := (forest.parent? key).map forest.nameOf
    isAbstract := e.isAbstract
    predefinedTypeEnum := e.predefinedTypeEnum }

/-- The written form of a forest: entities and enumerations in order of their names. -/
def document (forest : Forest) : SchemaDocument :=
  { version := forest.version
    entities := forest.sorted.map fun (key, e) => forest.recordOf key e
    predefinedTypeEnums := Text.sortBy (·.1) forest.predefinedTypeEnums }

end Forest

end PsetCompiler
