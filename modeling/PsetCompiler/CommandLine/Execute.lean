import PsetCompiler.CommandLine.Command
import PsetCompiler.CommandLine.Drawing
import PsetCompiler.CommandLine.Session
import PsetCompiler.Entity.SchemaFile
import PsetCompiler.Pipeline.Run

/-!
# What the commands do

## Main definitions

* `Command.session` — the session of a command.
* `Command.dataRoot?` — the folder of the data on which a command works.
* `Outcome`, `execute` — what a command line leaves: the workspace, the console, and how it ended.
-/

namespace PsetCompiler

open Session (perform print setUpLog quit)

/-- A name and a value. Any plain value can stand for the name, but only a text is one; a list or a
record cannot. -/
def givenNamed (value : Json) : Json → Except Failure (Option String × Json)
  | .str name => .ok (some name, value)
  | .arr _ => .error .argumentShape
  | .obj _ => .error .argumentShape
  | _ => .ok (none, value)

/-- The pair of a name and a value that a list of two, a text of two characters or a record of two
fields spells. -/
def givenPair : Json → Except Failure (Option String × Json)
  | .arr [name, value] => givenNamed value name
  | .obj members =>
    match overFields [] (.obj members) with
    | [(name, _), (value, _)] => .ok (some name, .str value)
    | _ => .error .argumentPairs
  | .str s =>
    match s.toList with
    | [name, value] => .ok (some name.toString, .str value.toString)
    | _ => .error .argumentPairs
  | .arr _ => .error .argumentPairs
  | _ => .error .argumentShape

/-- The fields that a value gives: those of a record, or the pairs of a list. -/
def givenFields : Json → Except Failure (List (Option String × Json))
  | .obj fields => .ok (fields.map fun (name, value) => (some name, value))
  | .arr items => items.mapM givenPair
  | .str s => if s = "" then .ok [] else .error .argumentPairs
  | _ => .error .argumentShape

/-- The inputs that are given as JSON, over the inputs of a step; none if some are given under what
is no name. -/
def givenInputs (inputs : List (String × Json)) (text : String) :
    Session (Option (List (String × Json))) :=
  match Json.parse? text.toList with
  | none => throw (.failure .argumentSyntax)
  | some value =>
    match givenFields value with
    | .ok given =>
      let named := given.mapM fun (name, value) => name.map fun name => (name, value)
      return named.map fun fields => overFields inputs (.obj fields)
    | .error why => throw (.failure why)

/-- The hint that inputs are missing, with an example for the first of them. -/
def missingLines (step first : String) (missing : List String) : List String :=
  ["Step '" ++ step ++ "' requires input fields: " ++ Text.quotedList missing,
    "Use --input/-i with JSON string, e.g.:",
    "  psdgen run-step " ++ step ++ " -i '\x7b\"" ++ first ++ "\": \"path\"\x7d'"]

/-- The inputs of a step that runs alone; none if some are given under what is no name. Without
inputs given as JSON, those that have to be there must be among its own. -/
def aloneInputs (stage : Stage) (entry : StepEntry) (input : Option String) :
    Session (Option (List (String × Json))) :=
  match input.filter (· ≠ "") with
  | some text => givenInputs entry.inputs text
  | none =>
    match stage.inputInfo.required.filter fun name => (entry.inputs.lookup name).isNone with
    | [] => return some entry.inputs
    | first :: rest => do
      (missingLines entry.name first (first :: rest)).forM print
      throw (.exit 1)

/-- One step of a pipeline runs alone. -/
def stepSession (config : PipelineConfig) (entry : StepEntry) (input : Option String) :
    Session Unit := do
  let stage ← perform entry.stage
  let job ← perform (entry.job config.dataRoot)
  let inputs ← aloneInputs stage entry input
  print ("Running step: " ++ entry.name)
  match inputs with
  | none => throw (.failure .argumentShape)
  | some fields =>
    let output ← perform (job.runOn (.obj fields))
    print ("Done. Output: " ++ output.render)

/-- The forest of a schema file; the session ends when it is not there. -/
def schemaSession (p : Path) : Session Forest := do
  if (← get).workspace.files.exists? p then
    perform do
      let content ← Workspace.readDocument p
      (readSchemaFile content p.name).onState
  else
    quit ("Schema file not found: " ++ p.text)

/-- The branch of an entity is shown. -/
def entitiesSession (forest : Forest) (root : String) : Session Unit :=
  match forest.key? root with
  | some key => do Session.put (branchLines forest (← get).width key)
  | none => quit (root ++ " is not an entity of " ++ forest.version)

/-- The word for a truth value. -/
def truthWord (b : Bool) : String :=
  if b then "True" else "False"

/-- Whether one entity inherits from another is shown, with the supertypes up to that one. -/
def checkSession (forest : Forest) (entity other : String) (strict : Bool) : Session Unit := do
  match forest.checked? entity other strict with
  | some (holds, chain) =>
    print (entity ++ " subtype of " ++ other ++ ": " ++ truthWord holds)
    print ("Supertypes up to " ++ other ++ ": " ++
      if chain.isEmpty then "-" else String.intercalate " -> " chain)
  | none => quit (entity ++ " is not an entity of " ++ forest.version)

/-- The session of a command. -/
def Command.session : Command → Session Unit
  | .run pipeline level logFile => do
    setUpLog level logFile
    let _ ← perform (runPipeline pipeline)
  | .runStep step pipeline input level => do
    setUpLog level
    let config ← perform (loadPipeline pipeline)
    match config.steps.find? (·.name == step) with
    | some entry => stepSession config entry input
    | none => quit ("Step '" ++ step ++ "' not found in pipeline config")
  | .info pipeline => do
    let config ← perform (loadPipeline pipeline)
    Session.put (pipelineTable config)
  | .entities schema root => do
    setUpLog "WARNING"
    entitiesSession (← schemaSession schema) root
  | .check schema entity other strict => do
    setUpLog "WARNING"
    checkSession (← schemaSession schema) entity other strict

/-- The pipeline file of a command that runs steps. -/
def Command.pipeline? : Command → Option Path
  | .run pipeline _ _ => some pipeline
  | .runStep _ pipeline _ _ => some pipeline
  | _ => none

/-- The folder of the data on which a command works, where its pipeline can be read. -/
def Command.dataRoot? (command : Command) (workspace : Workspace) : Option Path := do
  let pipeline ← command.pipeline?
  let ⟨(result, _), _⟩ := (loadPipeline pipeline).run workspace
  return (← result.toOption).dataRoot

/-- What a command line leaves. -/
structure Outcome where
  workspace : Workspace
  /-- The text on the console. -/
  text : String
  /-- How the command ended early, if it did. -/
  stop : Option Stop

/-- What a command leaves, started on a workspace at some time and with so many columns. -/
def execute (command : Command) (workspace : Workspace) (time : String) (width : Nat := 2000) :
    Outcome :=
  let (result, console) := command.session.run { workspace, time, width }
  { workspace := console.workspace, text := joinLines console.lines
    stop := match result with
      | .ok () => none
      | .error stop => some stop }

/-- The exit code of a command line: zero unless it ended early. -/
def Outcome.code (outcome : Outcome) : Nat :=
  match outcome.stop with
  | none => 0
  | some (.exit code) => code
  | some (.failure _) => 1

end PsetCompiler
