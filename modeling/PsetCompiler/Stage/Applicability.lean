import PsetCompiler.Applicability.Resolve
import PsetCompiler.Settings.Applicability
import PsetCompiler.Stage.Course

/-!
# The applicability stage

Resolves for every schema version which property sets its entities can carry, and writes the result
for other tools.

## Main definitions

* `resolveVersion` — what applies in one version, as far as it is listed.
* `applicabilityWork` — the stage.
-/

namespace PsetCompiler

/-- All inputs are there; the first that is not is reported. -/
def acceptsFiles : List Path → Run Workspace Bool
  | [] => return true
  | p :: rest => do
    if (← get).files.exists? p then acceptsFiles rest
    else
      report (.inputMissing p.text)
      return false

/-- What applies in one version, as far as it is listed. -/
def resolveVersion (settings : ApplicabilitySettings) (catalog : Catalog) (forest : Forest) :
    Report VersionApplicability := do
  let psets := catalog.forVersion forest.version
  if psets.isEmpty then
    report (.versionEmpty forest.version)
  let resolved ← versionApplicability forest psets
  let attached := resolved.entities.filter fun e => !e.psets.isEmpty
  let listed := if settings.includeUnattached then resolved.entities else attached
  report (.versionResolved forest.version psets.length attached.length listed.length)
  return { resolved with entities := listed }

/-- What applies in each version of a registry. -/
def resolveAll (settings : ApplicabilitySettings) (catalog : Catalog) :
    List Forest → Report (List VersionApplicability)
  | [] => return []
  | forest :: rest => do
    let resolved ← resolveVersion settings catalog forest
    return resolved :: (← resolveAll settings catalog rest)

/-- The work of the stage. -/
def runApplicability (root : Path) (settings : ApplicabilitySettings) (input : ApplicabilityInput) :
    Run Workspace ApplicabilityOutput := do
  let registry ← Workspace.readRegistry input.schemaFile
  let catalog ← Workspace.readCatalog input.catalogFile
  let resolved ← resolveAll settings catalog registry.sorted
  let p := (root.child "processed").child settings.outputName
  Workspace.writeJson p (.arr (resolved.map VersionApplicability.json))
  return { applicabilityFile := p, versions := resolved.map (·.version)
           entityCount := (resolved.flatMap (·.entities)).length }

/-- The stage. -/
def applicabilityWork : Work ApplicabilitySettings ApplicabilityInput ApplicabilityOutput :=
  { stage := .applicability
    accepts := fun _ _ input => acceptsFiles [input.schemaFile, input.catalogFile]
    run := runApplicability }

end PsetCompiler
