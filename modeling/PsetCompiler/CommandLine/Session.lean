import PsetCompiler.CommandLine.Drawing
import PsetCompiler.Workspace

/-!
# Console sessions

A session works on a workspace and fills a console: with the lines that commands print, and with the
reports that are grave enough, in the order in which they come. The reports may also go to a file.

A printed text is laid out in the columns of the console, which its environment sets. Of the markup
of the console nothing is modelled: a text is shown without its styles, and a name in it as it is,
also where the console takes a part of the name for a tag or for the code of a picture.

## Main definitions

* `Console`, `Session`, `Stop` — the state of a session, sessions, and how they end early.
* `Session.perform` — a run on the workspace, with its reports on the console.
* `Session.put`, `Session.print` — lines as they are, and a text laid out in lines.
* `Session.setUpLog` — the level from which on reports are shown, and their file.
-/

namespace PsetCompiler

/-- The workspace and the console of a session. -/
structure Console where
  workspace : Workspace
  /-- The time that stands in front of reports. -/
  time : String
  /-- The columns of the console. -/
  width : Nat
  /-- Reports of at least this rank are shown. -/
  threshold : Nat := Level.warning.rank
  logFile : Option Path := none
  /-- The lines of the console. -/
  lines : List String := []
  /-- The lines of the log. -/
  logged : List String := []

/-- How a session ends early. -/
inductive Stop where
  | failure (why : Failure)
  | exit (code : Nat)
deriving DecidableEq, Repr

/-- A computation on a console, which can end early. -/
abbrev Session := ExceptT Stop (StateM Console)

/-- The ranks of log levels by name. -/
def levelRanks : List (String × Nat) :=
  [("CRITICAL", 50), ("FATAL", 50), ("ERROR", 40), ("WARNING", 30), ("WARN", 30), ("INFO", 20),
    ("DEBUG", 10), ("NOTSET", 0)]

/-- The line of a report. -/
def logLine (time : String) (d : Diagnostic) : String :=
  let level := d.level.name
  time ++ " | " ++ level ++ String.ofList (List.replicate (8 - level.length) ' ') ++ " | " ++
    d.channel.name ++ " | " ++ d.text

/-- The console with the reports that are grave enough. -/
def Console.show (console : Console) (log : List Diagnostic) : Console :=
  let shown := (log.filter fun d => console.threshold ≤ d.level.rank).map (logLine console.time)
  { console with lines := console.lines ++ shown, logged := console.logged ++ shown }

/-- The lines as a text. -/
def joinLines (lines : List String) : String :=
  String.join (lines.map (· ++ "\n"))

/-- The console after its log was written to the file, if there is one. -/
def Console.saveLog (console : Console) : Console :=
  match console.logFile with
  | none => console
  | some p =>
    match console.workspace.files.write p (Text.encodeUtf8 (joinLines console.logged).toList) with
    | .ok files => { console with workspace := { console.workspace with files } }
    | .error _ => console

namespace Session

/-- A run on the workspace, with its reports on the console. -/
def perform {α : Type} (x : Run Workspace α) : Session α := do
  let console ← get
  let ⟨(result, workspace), log⟩ := x.run console.workspace
  set (({ console with workspace }.show log).saveLog)
  match result with
  | .ok a => return a
  | .error why => throw (.failure why)

/-- Lines shown as they are. -/
def put (lines : List String) : Session Unit :=
  modify fun console => { console with lines := console.lines ++ lines }

/-- A printed text. -/
def print (text : String) : Session Unit := do
  Session.put (laidOut .ragged .fold (← get).width text)

/-- The level from which on reports are shown, and the file to which they also go. The file is made
even when the level is unknown. -/
def setUpLog (level : String) (logFile : Option Path := none) : Session Unit := do
  if let some p := logFile then
    perform (Workspace.makeFolders p.parent)
    perform (Workspace.writeText p "")
  match levelRanks.lookup (Text.upper level) with
  | some threshold => modify fun console => { console with threshold, logFile }
  | none => throw (.failure .unknownLevel)

/-- The session ends, after a printed text. -/
def quit {α : Type} (text : String) : Session α := do
  print text
  throw (.exit 1)

end Session

end PsetCompiler
