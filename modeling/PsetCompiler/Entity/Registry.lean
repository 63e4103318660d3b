import PsetCompiler.Entity.Query
import PsetCompiler.Json.Printer

/-!
# Registries of schemas

The forests of several versions, found by version in any case and listed in order of version.

## Main definitions

* `Registry` — the forests under their versions.
* `Registry.register`, `Registry.get?` — a forest put in, and found.
* `Registry.sorted` — the forests in order of version.
* `Registry.bundle`, `Registry.ofBundle` — the written form, and the registry of one.
-/

namespace PsetCompiler

/-- The forests of several versions, under the capital form of the version. -/
structure Registry where
  forests : List (String × Forest) := []
deriving DecidableEq, Repr

namespace Registry

/-- The registry with a forest under its version, in place of one that was there. -/
def register (registry : Registry) (forest : Forest) : Registry :=
  ⟨insertEntry registry.forests (Text.upper forest.version) forest⟩

/-- The forest of a version, in any case. -/
def get? (registry : Registry) (version : String) : Option Forest :=
  registry.forests.lookup (Text.upper version)

/-- There is a forest of a version, in any case. -/
def contains (registry : Registry) (version : String) : Bool :=
  (registry.get? version).isSome

/-- The forests in order of version. -/
def sorted (registry : Registry) : List Forest :=
  (Text.sortBy (·.1) registry.forests).map (·.2)

/-- The versions in order. -/
def versions (registry : Registry) : List String :=
  registry.sorted.map (·.version)

/-- The written form of a registry. -/
def bundle (registry : Registry) : SchemaBundle :=
  ⟨registry.sorted.map Forest.document⟩

/-- The registry with the forests of some documents. -/
def registerAll (registry : Registry) : List SchemaDocument → Report Registry
  | [] => return registry
  | document :: rest => do
    let forest ← Forest.ofDocument document
    (registry.register forest).registerAll rest

/-- The registry of a written form. -/
def ofBundle (bundle : SchemaBundle) : Report Registry :=
  registerAll {} bundle.schemas

end Registry

end PsetCompiler
