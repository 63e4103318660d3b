import PsetCompiler.Report
import PsetCompiler.Text.Letter
import PsetCompiler.Text.Split

/-!
# Guessing a data type from a name

A property without a type gets a data type from parts of its name; every guess is reported.

## Main definitions

* `guessDataType` — the data type that a name suggests.
* `inferDataType` — the guess together with its report.
-/

namespace PsetCompiler

/-- Parts of names, folded, and the data type that any one of them suggests; earlier rows win. -/
def nameHints : List (List String × String) :=
  [(["ratio", "length", "width", "thickness", "angle", "transmittance", "fraction", "rate",
      "velocity", "speed", "capacity", "pressure", "temperature", "power", "heatgain", "efficiency",
      "resistance", "coefficient", "measure"], "IfcReal"),
    (["loadbearing"], "IfcBoolean"),
    (["reference"], "IfcIdentifier")]

/-- The data type of a name that suggests none. -/
def defaultDataType : String := "IfcLabel"

/-- The data type that a name suggests. -/
def guessDataType (name : String) : String :=
  let folded := (Text.foldCase name).toList
  match nameHints.find? fun hint => hint.1.any fun part => Text.occursIn part.toList folded with
  | some hint => hint.2
  | none => defaultDataType

/-- The data type that a name suggests, with a report of the guess at a place. -/
def inferDataType (name place : String) : Report String := do
  let dataType := guessDataType name
  report (.inferredType (if place = "" then name else place) dataType)
  return dataType

theorem value_inferDataType (name place : String) :
    (inferDataType name place).value = guessDataType name := rfl

theorem log_inferDataType (name : String) {place : String} (h : place ≠ "") :
    (inferDataType name place).log = [.inferredType place (guessDataType name)] := by
  rw [inferDataType, if_neg h]
  rfl

end PsetCompiler
