import PsetCompiler.PropertySet
import PsetCompiler.Text.Letter
import PsetCompiler.Text.Split

/-!
# Names and literals of generated sources

## Main definitions

* `SourceLanguage` — the languages of generated sources.
* `sourceName` — a text made into an identifier.
* `escapeLiteral` — a text made fit for a string literal between double quotes.
* `PropertySet.emitVersion` — the version under which generated code is filed.
-/

namespace PsetCompiler

/-- The languages of generated sources. -/
inductive SourceLanguage where
  | csharp
  | python
deriving DecidableEq, Repr

namespace SourceLanguage

/-- The name of a language in settings. -/
def name : SourceLanguage → String
  | .csharp => "csharp"
  | .python => "python"

/-- The ending of source files. -/
def fileEnding : SourceLanguage → String
  | .csharp => ".cs"
  | .python => ".py"

/-- The languages by name. -/
def words : List (String × SourceLanguage) :=
  [("csharp", .csharp), ("python", .python)]

end SourceLanguage

/-- A character of identifiers: an ASCII letter, an ASCII digit or an underscore. -/
def isNameChar (c : Char) : Bool :=
  ('0' ≤ c && c ≤ '9') || ('A' ≤ c && c ≤ 'Z') || ('a' ≤ c && c ≤ 'z') || c = '_'

/-- The characters with an underscore for each one that no identifier may hold. -/
def nameChars (cs : List Char) : List Char :=
  cs.map fun c => if isNameChar c then c else '_'

/-- A text with an underscore for each character that no identifier may hold. -/
def sourceName (s : String) : String :=
  String.ofList (nameChars s.toList)

/-- The characters of a literal: backslashes and double quotes get a backslash in front. -/
def escapeLiteralChars (cs : List Char) : List Char :=
  cs.flatMap fun c => if c = '\\' ∨ c = '"' then ['\\', c] else [c]

/-- A text made fit for a string literal between double quotes. -/
def escapeLiteral (s : String) : String :=
  String.ofList (escapeLiteralChars s.toList)

/-- The version under which generated code is filed. A plain `IFC4` does not tell the addenda apart,
so it gives way to the release for which the definition was read. -/
def PropertySet.emitVersion (pset : PropertySet) (release : String) : String :=
  if Text.upper pset.version = "IFC4" then Text.upper release else Text.upper pset.version

@[simp] theorem length_nameChars (cs : List Char) : (nameChars cs).length = cs.length := by
  simp [nameChars]

end PsetCompiler
