import PsetCompiler.Failure
import PsetCompiler.Guid
import PsetCompiler.Parameter.Classify

/-!
# Rows of parameter files

A parameter is a row of nine columns with tabs between them: a mark, the identifier, the name, the
type, the data category, the group, and the description between two flags.

## Main definitions

* `formatHeader` — the seven lines before the rows, if the group can be written.
* `formatRow` — the row of a parameter, if it can be written.
* `parseRow` — the parameter of a row, if the row is a usable one.
-/

namespace PsetCompiler

/-- The mark of a row that holds a parameter. -/
def rowMark : String := "PARAM"

/-- The names of the columns after the mark. -/
def columnNames : List String :=
  ["GUID", "NAME", "DATATYPE", "DATACATEGORY", "GROUP", "VISIBLE", "DESCRIPTION", "USERMODIFIABLE"]

/-- Columns with tabs between them. -/
def joinColumns (columns : List String) : String :=
  String.intercalate "\t" columns

/-- The seven lines before the rows, for a group whose number can be written. -/
def headerLines (groupId : Int := 2) (groupName : String := "IFC Parameters") : List String :=
  ["# This is a Revit shared parameter file.",
    "# Do not edit manually.",
    joinColumns ["*META", "VERSION", "MINVERSION"],
    joinColumns ["META", "2", "1"],
    joinColumns ["*GROUP", "ID", "NAME"],
    joinColumns ["GROUP", toString groupId, groupName],
    joinColumns ("*PARAM" :: columnNames)]

/-- A number in base ten, if it has not too many digits. -/
def formatNumber (n : Int) : Except Failure String :=
  if Text.IsWritable n then .ok (toString n) else .error (.refusedInputs .written)

/-- The seven lines before the rows, if the number of the group can be written. -/
def formatHeader (groupId : Int := 2) (groupName : String := "IFC Parameters") :
    Except Failure (List String) := do
  let _ ← formatNumber groupId
  return headerLines groupId groupName

/-- A flag as a column. -/
def flagColumn (flag : Bool) : String :=
  if flag then "1" else "0"

/-- The row of a parameter, which has to have an identifier and a group that can be written. -/
def formatRow (p : Parameter) : Except Failure String :=
  match p.guid.filter (· ≠ "") with
  | none => .error (.noGuid p.name)
  | some guid => do
    let group ← formatNumber p.groupId
    return joinColumns [rowMark, guid, p.name, p.paramType.name, p.dataCategory, group,
      flagColumn p.visible, p.description, flagColumn p.userModifiable]

/-- The columns of a row, without the line end. -/
def columnsOf (line : List Char) : List String :=
  (Text.splitBy (· = '\t') (Text.trimEndBy (fun c => c = '\r' ∨ c = '\n') line)).map String.ofList

/-- The primitive type of a row. An unknown one is made anew from the description, with a report. -/
def rowParamType (place name raw description : String) : Report ParamType :=
  match ParamType.ofName? (Text.upper (Text.strip raw)) with
  | some t => return t
  | none => do
    let t := paramTypeFor (Text.strip description)
    report (.rowType place name raw t.name)
    return t

/-- The parameter of a row, or nothing when the row is not a usable one. -/
def parseRow (line : List Char) (place : String := "") : Report (Option Parameter) :=
  match columnsOf line with
  | mark :: columns =>
    if mark ≠ rowMark then return none
    else
      match columns with
      | guid :: name :: rawType :: category :: group :: visible :: description :: modifiable :: _ =>
        if Text.isBlankText name then do
          report (.namelessRow place)
          return none
        else
          match Guid.read? (Text.strip guid) with
          | none => do
            report (.rowGuid place name guid)
            return none
          | some parsed =>
            match Text.readNumber group with
            | none => do
              report (.rowGroup place name group)
              return none
            | some groupId => do
              let paramType ← rowParamType place name rawType description
              return some
                { name, guid := some parsed.text, paramType, description, dataCategory := category,
                  groupId, visible := Text.strip visible == "1",
                  userModifiable := Text.strip modifiable == "1" }
      | columns => do
        report (.shortRow place (columns.length + 1))
        return none
  | [] => return none

end PsetCompiler
