import PsetCompiler.CommandLine.Execute
import Std.Time

/-!
# The command line

A command works on a workspace, which is a value. Here the workspace is filled from the disk, the
command is executed, and the files that it has changed are written back.
-/

namespace PsetCompiler

/-- The name of a place on the disk. -/
def Place.diskName (place : Place) : String :=
  "/" ++ String.intercalate "/" place

/-- What can be read inside a folder of the disk. -/
partial def loadInside (place : Place) : IO (List (Place × Entry)) := do
  let entries ← (← IO.FS.realPath place.diskName).readDir
  let found ← entries.toList.mapM fun entry => do
    let here := place ++ [entry.fileName]
    if ← entry.path.isDir then
      return (here, Entry.folder) :: (← loadInside here)
    else
      let content ← IO.FS.readBinFile entry.path
      return [(here, Entry.file content.data.toList)]
  return found.flatten

/-- The tree with a folder of the disk, all folders that lead to it, and what is inside it. -/
def loadPlace (tree : FileTree) (place : Place) : IO FileTree := do
  match tree.makeFolders ⟨"/", place⟩ with
  | .ok tree =>
    let fresh := (← loadInside place).filter fun found => (tree.entry? found.1).isNone
    return { tree with entries := tree.entries ++ fresh }
  | .error _ => return tree

/-- The tree with a folder of the disk, if the folder is there; what lies inside the working folder
is in the tree. -/
def loadFolder (tree : FileTree) (p : Path) : IO FileTree := do
  match ← (IO.FS.realPath (Path.join ⟨"/", tree.working⟩ p).text).toBaseIO with
  | .error _ => return tree
  | .ok real =>
    let place := (Path.ofText real.toString).parts
    if tree.working.isPrefixOf place || !(← real.isDir) then return tree
    else loadPlace tree place

/-- The workspace of a command: the working folder and the other folders into which it looks. -/
def loadWorkspace (command : Command) : IO Workspace := do
  let seed ← IO.getRandomBytes 16
  let space := Guid.ofNat (Digest.octetsValue seed.data.toList)
  let working := (Path.ofText (← IO.currentDir).toString).parts
  let supply : Supply := { fresh := fun n => space.derive (toString n) }
  let files ← command.folders.foldlM loadFolder (← loadPlace { working } working)
  let workspace : Workspace := { files, supply }
  match command.dataRoot? workspace with
  | none => return workspace
  | some p => return { workspace with files := ← loadFolder files p }

/-- The files and folders of the disk as they are after a command. -/
def saveChanges (before after : FileTree) : IO Unit :=
  after.entries.forM fun (place, entry) => do
    if before.entry? place ≠ some entry then
      match entry with
      | .folder => IO.FS.createDirAll place.diskName
      | .file content => IO.FS.writeBinFile place.diskName ⟨content.toArray⟩

/-- The columns of the console, which the environment may set. -/
def consoleWidth : IO Nat := do
  return ((← IO.getEnv "COLUMNS").bind String.toNat?).getD 80

/-- The failure that has ended a command, on the error stream. -/
def reportStop : Option Stop → IO Unit
  | some (.failure why) => IO.eprintln (why.message?.getD "The command has failed.")
  | _ => return ()

end PsetCompiler

open PsetCompiler in
/-- Executes the command that the arguments spell. -/
def main (args : List String) : IO UInt32 := do
  match Command.ofArguments? args with
  | none =>
    IO.eprintln "usage: psdgen (run | run-step | info | entities | check) [options] [arguments]"
    return 2
  | some command =>
    let workspace ← loadWorkspace command
    let time := (← Std.Time.PlainDateTime.now).format "uuuu-MM-dd HH:mm:ss"
    let outcome := execute command workspace time (← consoleWidth)
    saveChanges workspace.files outcome.workspace.files
    IO.print outcome.text
    reportStop outcome.stop
    return outcome.code.toUInt32
