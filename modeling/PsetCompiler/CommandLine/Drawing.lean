import PsetCompiler.CommandLine.Layout
import PsetCompiler.Entity.Query
import PsetCompiler.Pipeline.Config

/-!
# Tables and trees on the console

A tree is laid out in the columns of the console; a table is as wide as its cells, on a console that
has room for it. Names are drawn as they are: that a name may hold what the console takes for markup
is left out, and so are all styles.

## Main definitions

* `tableLines` — a table in a box, with a title above it.
* `pipelineTable` — the steps of a pipeline.
* `branchLines` — the branch of an entity as a tree.
-/

namespace PsetCompiler

/-! ### Tables -/

/-- The characters of a line across a table: its ends, its crossings and what runs between them. -/
structure Rule where
  left : String
  crossing : String
  right : String
  stroke : Char

/-- A line across a table. -/
def Rule.line (rule : Rule) (widths : List Nat) : String :=
  let strokes (width : Nat) : String := String.ofList (List.replicate (width + 2) rule.stroke)
  rule.left ++ String.intercalate rule.crossing (widths.map strokes) ++ rule.right

/-- A line of a row of a table, with bars between the cells. -/
def barredLine (bar : String) (cells : List String) : String :=
  bar ++ " " ++ String.intercalate (" " ++ bar ++ " ") cells ++ " " ++ bar

/-- The lines of a row of a table; a cell that has fewer than the others ends in empty ones. -/
def rowLines (bar : String) (widths : List Nat) (cells : List String) : List String :=
  let columns := List.zipWith (fun width cell => (width, laidOut .start .ellipsis width cell))
    widths cells
  let height := columns.foldl (fun height (_, lines) => max height lines.length) 1
  (List.range height).map fun n =>
    barredLine bar (columns.map fun (width, lines) =>
      lines.getD n (String.ofList (blanks width)))

/-- The width of every column: that of its longest cell. -/
def columnWidths (rows : List (List String)) : List Nat :=
  match rows with
  | [] => []
  | first :: rest =>
    rest.foldl (List.zipWith fun width cell => max width (neededWidth cell))
      (first.map neededWidth)

/-- A table in a box, with a title above it and a heading. -/
def tableLines (title : String) (heading : List String) (rows : List (List String)) : List String :=
  let widths := columnWidths (heading :: rows)
  let top := Rule.line ⟨"┏", "┳", "┓", '━'⟩ widths
  laidOut .center .fold top.length title ++ [top] ++ rowLines "┃" widths heading ++
  [Rule.line ⟨"┡", "╇", "┩", '━'⟩ widths] ++ rows.flatMap (rowLines "│" widths) ++
  [Rule.line ⟨"└", "┴", "┘", '─'⟩ widths]

/-- The row of a step. -/
def stepRow (number : Nat) (e : StepEntry) : List String :=
  [toString number, e.name, e.modulePath, if e.enabled then "Y" else "N",
    if e.dependsOn.isEmpty then "-" else String.intercalate ", " e.dependsOn]

/-- The rows of steps, numbered from a number on. -/
def stepRows (number : Nat) : List StepEntry → List (List String)
  | [] => []
  | e :: rest => stepRow number e :: stepRows (number + 1) rest

/-- The steps of a pipeline as a table. -/
def pipelineTable (config : PipelineConfig) : List String :=
  tableLines ("Pipeline: " ++ config.projectName)
    ["#", "Step", "Module", "Enabled", "Depends On"] (stepRows 1 config.steps)

/-! ### Trees -/

/-- The lines of a branch behind the guides of its place among its siblings. -/
def guided (isLast : Bool) : List String → List String
  | [] => []
  | first :: rest =>
    ((if isLast then "└── " else "├── ") ++ first) ::
      rest.map ((if isLast then "    " else "│   ") ++ ·)

/-- The lines of branches below one another. -/
def guidedBranches : List (List String) → List String
  | [] => []
  | [branch] => guided true branch
  | branch :: rest => guided false branch ++ guidedBranches rest

/-- The name of an entity as it is shown. -/
def entityLabel (e : Entity) : String :=
  e.name ++ if e.isAbstract then " (ABS)" else ""

/-- The branch of a key as a tree in a width, down to `bound` levels. -/
def Forest.treeFrom (forest : Forest) : (bound width : Nat) → String → List String
  | 0, _, _ => []
  | bound + 1, width, key =>
    (forest.entity? key).toList.flatMap (laidOut .ragged .fold width ∘ entityLabel) ++
      guidedBranches ((forest.sortedChildren key).map (forest.treeFrom bound (width - 4)))

/-- The branch of a key as a tree in a width. -/
def branchLines (forest : Forest) (width : Nat) (key : String) : List String :=
  forest.treeFrom (forest.links.length + 1) width key

end PsetCompiler
