import PsetCompiler.Parameter
import PsetCompiler.Parameter.Inference
import PsetCompiler.PropertySet

/-!
# From properties to parameters

The type of a property decides the primitive type of its parameter. Complex properties are not
classified; each of their members becomes a parameter of its own.

## Main definitions

* `paramTypeFor` — the primitive type of a data type.
* `Property.classify` — the primitive type and the description of a property.
* `PropertySet.parameterNames` — the properties that become parameters, with their names.
* `buildParameter` — the parameter of a property, without an identifier.
-/

namespace PsetCompiler

/-- The data types that are not numbers, by primitive type. -/
def dataTypeGroups : List (ParamType × List String) :=
  [(.angle, ["IfcPositivePlaneAngleMeasure", "IfcSolidAngleMeasure"]),
    (.area, ["IfcAreaMeasure"]),
    (.currency, ["IfcMonetaryMeasure"]),
    (.integer, ["IfcCardinalPointReference", "IfcCountMeasure", "IfcDayInMonthNumber",
      "IfcDayInWeekNumber", "IfcDimensionCount", "IfcInteger", "IfcIntegerCountRateMeasure",
      "IfcMonthInYearNumber", "IfcTimeStamp"]),
    (.length, ["IfcLengthMeasure", "IfcNonNegativeLengthMeasure", "IfcPositiveLengthMeasure"]),
    (.massDensity, ["IfcMassDensityMeasure"]),
    (.multilineText, ["IfcArcIndex", "IfcComplexNumber", "IfcCompoundPlaneAngleMeasure",
      "IfcLineIndex", "IfcPropertySetDefinitionSet"]),
    (.text, ["IfcBinary", "IfcBoxAlignment", "IfcDate", "IfcDateTime", "IfcDescriptiveMeasure",
      "IfcDuration", "IfcFontStyle", "IfcFontVariant", "IfcFontWeight", "IfcGloballyUniqueId",
      "IfcIdentifier", "IfcLabel", "IfcLanguageId", "IfcPresentableText", "IfcText", "IfcString",
      "IfcTextAlignment", "IfcTextDecoration", "IfcTextFontName", "IfcTextTransformation",
      "IfcTime"]),
    (.url, ["IfcURIReference"]),
    (.volume, ["IfcVolumeMeasure"]),
    (.yesNo, ["IfcBoolean", "IfcLogical"])]

/-- The primitive type of a data type, in any case; an unknown one is a number. -/
def paramTypeFor (dataType : String) : ParamType :=
  match dataTypeGroups.find? fun group => group.2.any (Text.sameFolded dataType) with
  | some group => group.1
  | none => .number

/-- The primitive type and the description of a property that is not complex. -/
def Property.classify (p : Property) (place : String := "") : Attempt (ParamType × String) :=
  match p.valueType with
  | none => do
    let dataType ← inferDataType p.name place
    return (paramTypeFor dataType, dataType)
  | some (.single dataType) => return (paramTypeFor dataType, dataType)
  | some (.enumerated name _) => return (.text, name)
  | some (.reference _) => return (.multilineText, "PropertyReferenceValue")
  | some (.bounded _) => return (.multilineText, "PropertyBoundedValue")
  | some (.list _) => return (.multilineText, "PropertyListValue")
  | some (.table _ _ _) => return (.multilineText, "PropertyTableValue")
  | some (.complex _ _) => throw (.complexClassified place)

/-- The properties that become parameters, with the names of these: the members of a complex property
stand in its place under qualified names, and for other properties the choice says how they are
named. -/
def PropertySet.parameterNames (pset : PropertySet) (qualified : Bool := false) :
    List (String × Property) :=
  pset.properties.flatMap fun p =>
    if p.isComplex then p.members.map fun m => (pset.name ++ "." ++ p.name ++ "." ++ m.name, m)
    else if qualified then [(pset.name ++ "." ++ p.name, p)]
    else [(p.name, p)]

/-- The parameter of a property, without an identifier. -/
def buildParameter (name : String) (p : Property) (set : String) (groupId : Int := 2) :
    Attempt Parameter := do
  let (paramType, description) ← p.classify (set ++ "." ++ p.name)
  return { name, paramType, description, groupId, owningSet := some set }

end PsetCompiler
