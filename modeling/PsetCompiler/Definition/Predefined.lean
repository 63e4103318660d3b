import PsetCompiler.PropertySet
import PsetCompiler.Text.Letter
import PsetCompiler.Text.Split

/-!
# Predefined property sets

The sets of doors, windows, coverings and reinforcement are attributes of entities, so that no
definition file exists for them. They are added for every release, with the classes and properties
of its family.

## Main definitions

* `Family`, `familyOf` — the families of releases.
* `predefinedSets` — the predefined sets of a release.
-/

namespace PsetCompiler

/-- The families of releases that differ in their predefined sets. -/
inductive Family where
  /-- IFC2x2 and IFC2x3, where styles carry the sets. -/
  | styles
  /-- IFC4, where types carry the sets. -/
  | types
deriving DecidableEq, Repr

/-- The family of a release; others have none. -/
def familyOf (release : String) : Option Family :=
  let version := Text.upper release
  if Text.startsWith "IFC2X2" version || Text.startsWith "IFC2X3" version then some .styles
  else if Text.startsWith "IFC4" version then some .types
  else none

/-- A predefined set: its classes and properties in every release, and those of each family. -/
structure PredefinedSet where
  name : String
  classes : List String
  /-- The names of properties, with their data types. -/
  properties : List (String × String)
  familyClasses : Family → List String := fun _ => []
  familyProperties : Family → List (String × String) := fun _ => []

/-- The data type of a length above zero. -/
def positiveLength : String := "IfcPositiveLengthMeasure"

/-- The data type of a length that may be zero. -/
def nonNegativeLength : String := "IfcNonNegativeLengthMeasure"

/-- The data type of a length of either sign. -/
def signedLength : String := "IfcLengthMeasure"

/-- The data type of a share of a whole. -/
def normalisedRatio : String := "IfcNormalisedRatioMeasure"

/-- The data type of a word. -/
def labelType : String := "IfcLabel"

/-- The sets of doors. -/
def doorSets : List PredefinedSet :=
  let classes : Family → List String
    | .styles => ["IfcDoorStyle"]
    | .types => ["IfcDoorType"]
  [{ name := "IfcDoorLiningProperties", classes := ["IfcDoor"]
     properties :=
       [("LiningDepth", positiveLength), ("ThresholdDepth", positiveLength),
         ("TransomOffset", signedLength), ("LiningOffset", signedLength),
         ("ThresholdOffset", signedLength), ("CasingThickness", positiveLength),
         ("CasingDepth", positiveLength)]
     familyClasses := classes
     familyProperties := fun
       | .styles =>
         [("LiningThickness", positiveLength), ("ThresholdThickness", positiveLength),
           ("TransomThickness", positiveLength)]
       | .types =>
         [("LiningThickness", nonNegativeLength), ("ThresholdThickness", nonNegativeLength),
           ("TransomThickness", nonNegativeLength), ("LiningToPanelOffsetX", signedLength),
           ("LiningToPanelOffsetY", signedLength)] },
    { name := "IfcDoorPanelProperties", classes := ["IfcDoor"]
      properties :=
        [("PanelDepth", positiveLength), ("PanelOperation", labelType),
          ("PanelWidth", normalisedRatio), ("PanelPosition", labelType)]
      familyClasses := classes }]

/-- The properties of panels of coverings and windows. -/
def framedPanel : List (String × String) :=
  [("OperationType", labelType), ("PanelPosition", labelType), ("FrameDepth", positiveLength),
    ("FrameThickness", positiveLength)]

/-- The set of permeable coverings. -/
def coveringSet : PredefinedSet :=
  { name := "IfcPermeableCoveringProperties", classes := ["IfcDoor", "IfcWindow"]
    properties := framedPanel
    familyClasses := fun
      | .styles => ["IfcDoorStyle", "IfcWindowStyle"]
      | .types => ["IfcDoorType", "IfcWindowType"] }

/-- The set of reinforcement. -/
def reinforcementSet : PredefinedSet :=
  { name := "IfcReinforcementDefinitionProperties", classes := ["IfcReinforcingElement"]
    properties := [("DefinitionType", labelType), ("ReinforcementSectionDefinitions", labelType)] }

/-- The sets of windows. -/
def windowSets : List PredefinedSet :=
  let classes : Family → List String
    | .styles => ["IfcWindowStyle"]
    | .types => ["IfcWindowType"]
  [{ name := "IfcWindowLiningProperties", classes := ["IfcWindow"]
     properties :=
       [("LiningDepth", positiveLength), ("FirstTransomOffset", normalisedRatio),
         ("SecondTransomOffset", normalisedRatio), ("FirstMullionOffset", normalisedRatio),
         ("SecondMullionOffset", normalisedRatio)]
     familyClasses := classes
     familyProperties := fun
       | .styles =>
         [("LiningThickness", positiveLength), ("TransomThickness", positiveLength),
           ("MullionThickness", positiveLength)]
       | .types =>
         [("LiningThickness", nonNegativeLength), ("TransomThickness", nonNegativeLength),
           ("MullionThickness", nonNegativeLength), ("LiningOffset", signedLength),
           ("LiningToPanelOffsetX", signedLength), ("LiningToPanelOffsetY", signedLength)] },
    { name := "IfcWindowPanelProperties", classes := ["IfcWindow"], properties := framedPanel
      familyClasses := classes }]

/-- All predefined sets. -/
def allPredefinedSets : List PredefinedSet :=
  doorSets ++ [coveringSet, reinforcementSet] ++ windowSets

/-- What a family adds, if there is a family. -/
def familyPart {α : Type} (family : Option Family) (part : Family → List α) : List α :=
  (family.map part).getD []

/-- The definition of a predefined set in a release. -/
def PredefinedSet.definition (release : String) (s : PredefinedSet) : PropertySet :=
  let family := familyOf release
  { name := s.name, version := Text.upper release, release
    applicableClasses := s.classes ++ familyPart family s.familyClasses
    properties := (s.properties ++ familyPart family s.familyProperties).map
      fun (name, dataType) => { name, valueType := some (.single dataType) } }

/-- The predefined sets of a release. -/
def predefinedSets (release : String) : List PropertySet :=
  allPredefinedSets.map (PredefinedSet.definition release)

end PsetCompiler
