import PsetCompiler.Parameter.Merge
import PsetCompiler.Parameter.Row
import PsetCompiler.Text.Encoding

/-!
# Parameter files

A file of shared parameters: header lines, and a row for every parameter in order of name. A table
is started from such a file; the first row of a name counts. A file that cannot be decoded to its
end gives the rows that were read before.

## Main definitions

* `seedLines`, `seedFile` — a table with the rows of a file.
* `fileText` — the file of a table.
-/

namespace PsetCompiler

/-- A table with the rows of some lines, numbered from `number` on, and how many rows came in. -/
def seedLines (file : String) (table : ParameterTable) :
    (number : Nat) → List (List Char) → Report (ParameterTable × Nat)
  | _, [] => return (table, 0)
  | number, line :: rest => do
    let place := file ++ ":" ++ toString number
    match ← parseRow line place with
    | none => seedLines file table (number + 1) rest
    | some p =>
      if (table.lookup p.name).isSome then do
        report (.repeatedRow place p.name)
        seedLines file table (number + 1) rest
      else do
        let (table, added) ← seedLines file (table ++ [(p.name, p)]) (number + 1) rest
        return (table, added + 1)

/-- A table with the rows of a file of some name and path, and how many rows came in. -/
def seedFile (file path : String) (content : Text.Bytes) (table : ParameterTable) :
    Report (ParameterTable × Nat) := do
  let text := Text.readBlocks content
  let (table, added) ← seedLines file table 1 text.lines
  if !text.intact then
    report (.cutSeed file added)
  report (.seeded added path)
  return (table, added)

/-- The rows of parameters, or the first failure among them. -/
def formatRows : List (String × Parameter) → Except Failure (List String)
  | [] => .ok []
  | entry :: rest => do
    let row ← formatRow entry.2
    return row :: (← formatRows rest)

/-- The file of a table: the header and a row for every parameter, in order of name. -/
def fileText (table : ParameterTable) (groupId : Int := 2)
    (groupName : String := "IFC Parameters") : Except Failure String := do
  let header ← formatHeader groupId groupName
  let rows ← formatRows (Text.sortBy (·.1) table)
  return String.intercalate "\n" (header ++ rows) ++ "\n"

end PsetCompiler
