import PsetCompiler.Guid
import PsetCompiler.Report
import PsetCompiler.Text.Letter

/-!
# Header fields of definitions

Published definitions spell their versions, classes and identifiers in several ways. Each field is
brought to one spelling, or dropped when it cannot be.

## Main definitions

* `normalizeVersion` — the version of a definition.
* `cleanClassName` — the class that an entry names, without the notes behind it.
* `ApplicableType`, `parseApplicableType` — the parts of an applicable type value.
* `normalizeGuid` — the identifier of a set or property.
-/

namespace PsetCompiler

/-- A version without spaces, in capitals. -/
def bareVersion (raw : Option String) : String :=
  Text.upper (String.ofList ((raw.getD "").toList.filter (· != ' ')))

/-- The version of a definition that was read for a release. Any IFC4 gives way to the release,
since the definition alone does not tell the addenda apart; `2x`, `2x2` and `2.x` are all IFC2X2. -/
def normalizeVersion (raw : Option String) (release : String) : String :=
  let version := bareVersion raw
  if version = "" then Text.upper release
  else if Text.startsWith "IFC4" version then Text.upper release
  else if Text.startsWith "2" version then
    if ["2X", "2X2", "2.X"].contains version then "IFC2X2" else "IFC" ++ version
  else if Text.startsWith "IFC2X3" version then "IFC2X3"
  else if Text.startsWith "IFC" version then version
  else "IFC" ++ version

/-- The first word of an entry that looks like the name of an entity. -/
def cleanClassName (raw : String) : Option String :=
  (Text.split (fun c => c = '/' ∨ c = '\\' ∨ c = ' ') (Text.strip raw)).find?
    (Text.startsWith "Ifc")

/-! ### Applicable type values -/

/-- The parts of an applicable type value, `Entity/PREDEFINED` or `Entity.Attribute="PREDEFINED"`.
-/
structure ApplicableType where
  applicableType : Option String := none
  predefinedType : Option String := none
  /-- The classes of a list of entities. -/
  extraClasses : List String := []
deriving DecidableEq, Repr

/-- A text, unless it is empty. -/
def filled (s : String) : Option String :=
  if s = "" then none else some s

/-- The texts between commas, without white space at their ends; empty ones are left out. -/
def listedNames (s : String) : List String :=
  ((Text.split (· = ',') s).map Text.strip).filter (· ≠ "")

/-- The predefined type that the last part of a value names. -/
def predefinedPart (part : String) : Option String :=
  let bare := Text.strip (Text.replaceAll "\"" "" part)
  filled (String.ofList (Text.trimEndBy (· = ',') bare.toList))

/-- The parts of an applicable type value. -/
def parseApplicableType (raw : String) : ApplicableType :=
  let text := Text.strip raw
  if text = "" ∨ Text.upper text = "N/A" then {}
  else
    match Text.split (fun c => c = '/' ∨ c = '.' ∨ c = '=') (Text.replaceAll "SELF\\" "" text) with
    | [] => {}
    | first :: others =>
      let entity := Text.strip first
      { applicableType := filled entity
        predefinedType :=
          if Text.foldCase entity = "ifcmaterial" then none else others.getLast?.bind predefinedPart
        extraClasses := if entity.toList.contains ',' then listedNames entity else [] }

/-! ### Identifiers -/

/-- The identifier of a set or property in its written form; one that spells none is dropped, with a
report. -/
def normalizeGuid (raw : Option String) (place : String) : Report (Option String) :=
  match raw with
  | none => return none
  | some raw =>
    if Text.isBlankText raw then return none
    else
      match Guid.read? (Text.strip raw) with
      | some guid => return some guid.text
      | none => do
        report (.malformedGuid place raw)
        return none

end PsetCompiler
