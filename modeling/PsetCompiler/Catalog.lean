import PsetCompiler.PropertySet
import PsetCompiler.Text.Letter
import PsetCompiler.Text.Order

/-!
# The catalog of definitions

The catalog keeps, under each set name, the definitions of that set in the order in which they were
added, each with the schema release for which it was added.

## Main definitions

* `VersionedSet` — a definition and its release.
* `Catalog` — the definitions under their names.
* `Catalog.add` — one more definition; afterwards the names are in order.
* `Catalog.entries` — every definition, by name and then in order of addition.
* `Catalog.forVersion` — the definitions of one release, whatever its case.
* `Catalog.json`, `Catalog.read` — the catalog as JSON, and read from it.
-/

namespace PsetCompiler

/-- A definition and the release for which it was added. -/
structure VersionedSet where
  release : String
  definition : PropertySet

/-- The definitions under their names. -/
structure Catalog where
  definitions : List (String × List VersionedSet) := []

namespace Catalog

/-- One more definition under a name, behind those that are there. -/
def insert (name : String) (entry : VersionedSet) :
    List (String × List VersionedSet) → List (String × List VersionedSet)
  | [] => [(name, [entry])]
  | (key, entries) :: rest =>
    if key = name then (key, entries ++ [entry]) :: rest
    else (key, entries) :: insert name entry rest

/-- One more definition, under its name; afterwards the names are in order. -/
def add (catalog : Catalog) (release : String) (pset : PropertySet) : Catalog :=
  ⟨Text.sortBy (·.1) (insert pset.name ⟨release, pset⟩ catalog.definitions)⟩

/-- The names with their definitions, in order of name. -/
def sorted (catalog : Catalog) : List (String × List VersionedSet) :=
  Text.sortBy (·.1) catalog.definitions

/-- Every definition: by name, and under one name in order of addition. -/
def entries (catalog : Catalog) : List VersionedSet :=
  catalog.sorted.flatMap (·.2)

/-- The definitions of one release, whatever its case. -/
def forVersion (catalog : Catalog) (version : String) : List PropertySet :=
  (catalog.entries.filter fun entry => Text.upper entry.release == Text.upper version).map
    (·.definition)

/-- How many definitions there are. -/
def size (catalog : Catalog) : Nat :=
  (catalog.definitions.flatMap (·.2)).length

end Catalog

/-! ### As JSON and from it -/

/-- A definition with its release as JSON. -/
def VersionedSet.json (entry : VersionedSet) : Json :=
  .obj [("schema_file_version", .str entry.release), ("definition", entry.definition.json)]

/-- A definition with its release, read. -/
def VersionedSet.read : Json → Checked VersionedSet :=
  readRecord fun fields =>
    VersionedSet.mk <$> .required "schema_file_version" readText fields
      <*> .required "definition" PropertySet.read fields

/-- A catalog as JSON. -/
def Catalog.json (catalog : Catalog) : Json :=
  .obj [("definitions", .ofPairs (fun entries => .arr (entries.map VersionedSet.json))
    catalog.definitions)]

/-- A catalog, read. -/
def Catalog.read : Json → Checked Catalog :=
  readRecord fun fields =>
    Catalog.mk <$> .optional "definitions" [] (readMap (readList VersionedSet.read)) fields

end PsetCompiler
