import PsetCompiler.Enumeration.Block
import PsetCompiler.Json.Printer

/-!
# Enumerations as source text

One source file holds the enumerations of a version, as enumerations of a namespace or as classes of
a module. The text is built line by line.

## Main definitions

* `csharpEnumLines`, `pythonEnumLines` — the lines of a file.
* `enumSource` — the text of a file.
-/

namespace PsetCompiler

/-- The text of lines, each with a line feed. -/
def textOfLines (lines : List String) : String :=
  String.join (lines.map (· ++ "\n"))

theorem textOfLines_cons (line : String) (lines : List String) :
    textOfLines (line :: lines) = line ++ "\n" ++ textOfLines lines :=
  String.join_cons

theorem textOfLines_append (lines lines' : List String) :
    textOfLines (lines ++ lines') = textOfLines lines ++ textOfLines lines' := by
  rw [textOfLines, List.map_append, String.join_append, ← textOfLines, ← textOfLines]

/-- What stands in a heading when no other title is given. -/
def defaultTitle : String := "property set enumerations"

/-! ### Enumerations of a namespace -/

/-- The line of a member, with a comma unless it is the last. -/
def csharpMemberLine (last : Bool) (m : EnumMember) : String :=
  "      " ++ m.identifier ++
    (match m.number with
    | some n => " = " ++ toString n
    | none => "") ++
    (if last then "" else ",")

/-- The lines of members. -/
def csharpMemberLines : List EnumMember → List String
  | [] => []
  | [m] => [csharpMemberLine true m]
  | m :: rest => csharpMemberLine false m :: csharpMemberLines rest

/-- The lines of a block. -/
def csharpBlockLines (b : EnumBlock) : List String :=
  ("   public enum " ++ b.name) :: "   \x7b" :: csharpMemberLines b.members ++ ["   \x7d"]

/-- The lines of blocks, with an empty line between two of them. -/
def csharpBlocksLines : List EnumBlock → List String
  | [] => []
  | [b] => csharpBlockLines b
  | b :: rest => csharpBlockLines b ++ "" :: csharpBlocksLines rest

/-- The namespace of a version inside another one, which may be empty. -/
def versionNamespace (space version : String) : String :=
  if space = "" then version else space ++ "." ++ version

/-- The lines of a file of enumerations of a namespace. -/
def csharpEnumLines (version : String) (blocks : List EnumBlock) (space title : String) :
    List String :=
  ["// " ++ version ++ " " ++ title ++ ".", "// Generated by psdgen. Do not edit.",
    "namespace " ++ versionNamespace space version, "\x7b"] ++ csharpBlocksLines blocks ++ ["\x7d"]

/-! ### Classes of a module -/

/-- A character of a literal that may also stand inside markup. -/
def markupSafe (c : Char) : List Char :=
  if c = '<' ∨ c = '>' ∨ c = '&' ∨ c = '\'' then Json.unitMark c.toNat else Json.escapeAscii c

/-- A text as a literal in ASCII that may also stand inside markup. -/
def markupSafeLiteral (s : String) : String :=
  String.ofList ('"' :: s.toList.flatMap markupSafe ++ ['"'])

/-- The line of a member. -/
def pythonMemberLine (m : EnumMember) : String :=
  "    " ++ m.identifier ++ " = " ++
    (match m.number with
    | some n => toString n
    | none => markupSafeLiteral m.value)

/-- The lines of a block. -/
def pythonBlockLines (b : EnumBlock) : List String :=
  "" :: "" :: ("class " ++ b.name ++ "(Enum):") ::
    (if b.members.isEmpty then ["    pass"] else b.members.map pythonMemberLine)

/-- The lines of a file of classes. -/
def pythonEnumLines (version : String) (blocks : List EnumBlock) (title : String) : List String :=
  ["\"\"\"" ++ version ++ " " ++ title ++ ".", "", "Generated by psdgen. Do not edit.", "\"\"\"",
    "", "from enum import Enum"] ++ blocks.flatMap pythonBlockLines

/-- The text of a file of enumerations. -/
def enumSource (language : SourceLanguage) (version : String) (blocks : List EnumBlock)
    (space : String := "") (title : String := defaultTitle) : String :=
  match language with
  | .csharp => textOfLines (csharpEnumLines version blocks space title)
  | .python => textOfLines (pythonEnumLines version blocks title)

end PsetCompiler
