import PsetCompiler.Initializer.Source
import PsetCompiler.Settings.Initializer
import PsetCompiler.Stage.Course

/-!
# The initializer stage

Emits the definitions of the catalog as the source of an initializer.

## Main definitions

* `initializerText` — the text of the source file.
* `initializerWork` — the stage.
-/

namespace PsetCompiler

/-- The text of the source file. -/
def initializerText (settings : InitializerSettings) (methods : List InitMethod) : String :=
  initializerSource methods settings.space
    (if settings.calculatorHook then settings.calculatorSpace else "")

/-- The work of the stage. -/
def runInitializer (root : Path) (settings : InitializerSettings) (input : CatalogInput) :
    Run Workspace InitializerOutput := do
  let catalog ← Workspace.readCatalog input.catalogFile
  let methods ← (buildInitMethods catalog settings.enumSpace).onState
  let p := (root.child "processed").child settings.outputName
  Workspace.makeFolders p.parent
  Workspace.writeText p (initializerText settings methods)
  let entries := ((methods.flatMap (·.blocks)).flatMap (·.entries)).length
  report (.initializerWritten methods.length entries p.name)
  return { sourceFile := p, methodCount := methods.length, entryCount := entries }

/-- The stage. -/
def initializerWork : Work InitializerSettings CatalogInput InitializerOutput :=
  { stage := .initializer
    accepts := fun _ _ input => acceptsCatalog .initializer input.catalogFile
    run := runInitializer }

end PsetCompiler
