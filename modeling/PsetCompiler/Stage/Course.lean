import PsetCompiler.Workspace

/-!
# The course of a stage

Every stage takes the same course: its inputs are checked, its work is done, and both are reported.
A stage that refuses its inputs fails before it does any work.

## Main definitions

* `Work` — what is special about a stage.
* `Work.execute` — the course of a stage.
* `underRoot` — a path that the settings of a stage give.
-/

namespace PsetCompiler

/-- What is special about a stage with settings of type `σ`, inputs of type `ι` and outputs of type
`ω`. The folder of all data is given to it too. -/
structure Work (σ ι ω : Type) where
  stage : Stage
  /-- The stage accepts its inputs; a stage that refuses them reports why. -/
  accepts : (root : Path) → σ → ι → Run Workspace Bool
  run : (root : Path) → σ → ι → Run Workspace ω

/-- The course of a stage. -/
def Work.execute {σ ι ω : Type} (work : Work σ ι ω) (root : Path) (settings : σ) (input : ι) :
    Run Workspace ω := do
  report (.validating work.stage)
  if ← work.accepts root settings input then
    report (.starting work.stage)
    let output ← work.run root settings input
    report (.finished work.stage (← get).seconds)
    return output
  else
    throw (.refusedInputs (.stage work.stage))

/-- A path that the settings of a stage give; a relative one starts from the folder of all data. -/
def underRoot (root p : Path) : Path :=
  root.join p

/-- The catalog of a stage is there; if not, that is reported. -/
def acceptsCatalog (stage : Stage) (p : Path) : Run Workspace Bool := do
  if (← get).files.exists? p then return true
  else
    report (.catalogMissing stage p.text)
    return false

end PsetCompiler
