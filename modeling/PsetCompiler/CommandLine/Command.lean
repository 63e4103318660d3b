import PsetCompiler.Files.Path

/-!
# Commands

## Main definitions

* `Command` — what can be asked for on the command line.
* `Arguments`, `readArguments` — the options and the other words of a command line.
* `Command.ofArguments?` — the command that a command line spells.
* `Command.folders` — the folders of the files that a command names.
-/

namespace PsetCompiler

/-- What can be asked for on the command line. -/
inductive Command where
  /-- Run all steps of a pipeline; the log may also go to a file. -/
  | run (pipeline : Path) (level : String) (logFile : Option Path)
  /-- Run one step of a pipeline, on inputs that may be given as JSON. -/
  | runStep (step : String) (pipeline : Path) (input : Option String) (level : String)
  /-- Show the steps of a pipeline. -/
  | info (pipeline : Path)
  /-- Show the branch of an entity of a schema file. -/
  | entities (schema : Path) (root : String)
  /-- Tell whether one entity of a schema file inherits from another. -/
  | check (schema : Path) (entity other : String) (strict : Bool)
deriving DecidableEq, Repr

/-- The options of a command line with their values, and its other words. -/
structure Arguments where
  options : List (String × String) := []
  words : List String := []
deriving DecidableEq, Repr

/-- The options that a command takes. -/
structure OptionSpec where
  /-- The spellings of options that take a value, and their names. -/
  valued : List (String × String) := []
  /-- The spellings of options that stand for a value, with their names and these values. -/
  flags : List (String × String × String) := []

/-- One more option. -/
def Arguments.addOption (name value : String) (arguments : Arguments) : Arguments :=
  { arguments with options := (name, value) :: arguments.options }

/-- The value of an option; of two the later one counts. -/
def Arguments.option? (arguments : Arguments) (name : String) : Option String :=
  arguments.options.reverse.lookup name

/-- An option and its value in one word, with an equals sign between them. -/
def splitOption? (spec : OptionSpec) (word : String) : Option (String × String) :=
  let (name, rest) := word.toList.span (· != '=')
  match rest with
  | _ :: value =>
    (spec.valued.lookup (String.ofList name)).map fun name => (name, String.ofList value)
  | [] => none

/-- A short option and its value in one word. -/
def shortOption? (spec : OptionSpec) (word : String) : Option (String × String) :=
  match word.toList with
  | '-' :: c :: value =>
    if value.isEmpty then none
    else (spec.valued.lookup (String.ofList ['-', c])).map fun name => (name, String.ofList value)
  | _ => none

/-- The options and the other words of a command line, unless an option is unknown. -/
def readArguments (spec : OptionSpec) : List String → Option Arguments
  | [] => some {}
  | "--" :: rest => some { words := rest }
  | word :: rest =>
    match spec.flags.lookup word with
    | some (name, value) => (readArguments spec rest).map (·.addOption name value)
    | none =>
      match spec.valued.lookup word with
      | some name =>
        match rest with
        | value :: rest => (readArguments spec rest).map (·.addOption name value)
        | [] => none
      | none =>
        match (splitOption? spec word).or (shortOption? spec word) with
        | some (name, value) => (readArguments spec rest).map (·.addOption name value)
        | none =>
          if word ≠ "-" ∧ word.toList.head? = some '-' then none
          else
            (readArguments spec rest).map fun arguments =>
              { arguments with words := word :: arguments.words }

/-- The pipeline of a run, unless the command line names one. -/
def defaultPipeline : String := "configs/pipeline.yaml"

namespace Arguments

/-- The pipeline of a run. -/
def pipeline (arguments : Arguments) : Path :=
  .ofText ((arguments.option? "config").getD defaultPipeline)

/-- The log level of a run. -/
def level (arguments : Arguments) : String :=
  (arguments.option? "log-level").getD "INFO"

end Arguments

/-- The spelling of an option that takes a value. -/
def longOption (name : String) : String × String :=
  ("--" ++ name, name)

/-- The command that a command line spells. -/
def Command.ofArguments? : List String → Option Command
  | "run" :: rest => do
    let found ← readArguments
      { valued := ["config", "log-level", "log-file"].map longOption } rest
    match found.words with
    | [] => some (.run found.pipeline found.level ((found.option? "log-file").map .ofText))
    | _ => none
  | "run-step" :: rest => do
    let found ← readArguments
      { valued := ("-i", "input") :: ["config", "log-level", "input"].map longOption } rest
    match found.words with
    | [step] => some (.runStep step found.pipeline (found.option? "input") found.level)
    | _ => none
  | "info" :: rest => do
    let found ← readArguments { valued := [longOption "config"] } rest
    match found.words with
    | [] => some (.info found.pipeline)
    | _ => none
  | "entities" :: rest => do
    let found ← readArguments { valued := [longOption "root"] } rest
    match found.words with
    | [schema] => some (.entities (.ofText schema) ((found.option? "root").getD "IfcProduct"))
    | _ => none
  | "check" :: rest => do
    let found ← readArguments
      { flags := [("--strict", "strict", "yes"), ("--no-strict", "strict", "no")] } rest
    match found.words with
    | [schema, entity, other] =>
      some (.check (.ofText schema) entity other (found.option? "strict" != some "no"))
    | _ => none
  | _ => none

/-- The folders of the files that a command names. -/
def Command.folders : Command → List Path
  | .run pipeline _ logFile => pipeline.parent :: logFile.toList.map Path.parent
  | .runStep _ pipeline _ _ => [pipeline.parent]
  | .info pipeline => [pipeline.parent]
  | .entities schema _ => [schema.parent]
  | .check schema _ _ _ => [schema.parent]

end PsetCompiler
