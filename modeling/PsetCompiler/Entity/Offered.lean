import PsetCompiler.Entity.Query
import PsetCompiler.Enumeration.Source

/-!
# Entities offered for export

The concrete entities of a branch may be written as an enumeration. Entities that exist in a release
but should not be offered any more are left out.

## Main definitions

* `deprecatedEntities` — the entities of a version that should not be offered.
* `Forest.offered` — the names of the offered entities of a branch.
* `entityBlock` — their enumeration.
-/

namespace PsetCompiler

/-- What versions begin with, and the entities that should not be offered in them. -/
def deprecatedTable : List (String × List String) :=
  [("IFC4", ["IfcAnnotation", "IfcProxy", "IfcOpeningStandardCase", "IfcBeamStandardCase",
      "IfcColumnStandardCase", "IfcDoorStandardCase", "IfcMemberStandardCase",
      "IfcPlateStandardCase", "IfcSlabElementedCase", "IfcSlabStandardCase",
      "IfcWallElementedCase", "IfcWallStandardCase", "IfcWindowStandardCase", "IfcDoorStyle",
      "IfcWindowStyle", "IfcBuilding", "IfcBuildingStorey"]),
    ("IFC2X3", ["IfcAnnotation", "IfcElectricalElement", "IfcEquipmentElement", "IfcBuilding",
      "IfcBuildingStorey"]),
    ("IFC2X2", ["IfcAnnotation", "IfcBuilding", "IfcBuildingStorey"])]

/-- The entities of a version that should not be offered. No beginning in the table begins another
one, so at most one fits. -/
def deprecatedEntities (version : String) : List String :=
  ((deprecatedTable.find? fun entry => Text.startsWith entry.1 (Text.upper version)).map
    (·.2)).getD []

/-- The names of the concrete entities of a branch, without those that should not be offered, in
order. -/
def Forest.offered (forest : Forest) (root : String) (excludeDeprecated : Bool) : List String :=
  let excluded := if excludeDeprecated then deprecatedEntities forest.version else []
  Text.sortTexts ((forest.branch root).filter fun name =>
    !((forest.find? name).map (·.isAbstract)).getD false && !excluded.contains name)

/-- The enumeration of the offered entities of a branch. -/
def entityBlock (forest : Forest) (root : String) (excludeDeprecated : Bool)
    (language : SourceLanguage) : Attempt EnumBlock :=
  buildBlock "IFCEntityType" (forest.offered root excludeDeprecated) language

/-- The source of the enumeration of entities. -/
def entitySource (forest : Forest) (block : EnumBlock) (language : SourceLanguage) : String :=
  enumSource language forest.version [block] "" "entity types"

end PsetCompiler
