import PsetCompiler.Text.Letter

/-!
# Known applicable classes

Some published definitions name no classes. Those that are known to be incomplete are listed here
with the classes that they lack.

## Main definitions

* `knownClassTable` — the incomplete definitions and their classes.
* `knownClasses` — the classes of a definition, if it is one of them.
-/

namespace PsetCompiler

/-- The classes of control elements. -/
def controlElement : List String := ["IfcDistributionControlElement"]

/-- The classes that carry thermal loads. -/
def thermalLoad : List String := ["IfcElement", "IfcSpatialStructureElement", "IfcZone"]

/-- The versions and names of incomplete definitions, and their classes. -/
def knownClassTable : List ((String × String) × List String) :=
  [(("IFC4", "Pset_CivilElementCommon"), ["IfcCivilElement"]),
    (("IFC4", "Pset_ElectricFlowStorageDevicePHistory"), ["IfcElectricFlowStorageDevice"]),
    (("IFC4", "Pset_ElementAssemblyCommon"), ["IfcElementAssembly"]),
    (("IFC4", "Pset_SpatialZoneCommon"), ["IfcSpatialZone"]),
    (("IFC2X2", "Pset_AnalogInput"), controlElement),
    (("IFC2X2", "Pset_AnalogOutput"), controlElement),
    (("IFC2X2", "Pset_BinaryInput"), controlElement),
    (("IFC2X2", "Pset_BinaryOutput"), controlElement),
    (("IFC2X2", "Pset_MultiStateInput"), controlElement),
    (("IFC2X2", "Pset_MultiStateOutput"), controlElement),
    (("IFC2X2", "Pset_ElectricalDeviceCommon"), ["IfcDistributionElement"]),
    (("IFC2X2", "Pset_DuctConnection"), ["IfcDuctSegmentType", "IfcDuctFittingType"]),
    (("IFC2X2", "Pset_DuctDesignCriteria"),
      ["IfcSystem", "IfcDuctSegmentType", "IfcDuctFittingType"]),
    (("IFC2X2", "Pset_PipeConnection"), ["IfcPipeSegmentType", "IfcPipeFittingType"]),
    (("IFC2X2", "Pset_PipeConnectionFlanged"), ["IfcPipeSegmentType", "IfcPipeFittingType"]),
    (("IFC2X2", "Pset_AirSideSystemInformation"), ["IfcSystem"]),
    (("IFC2X2", "Pset_FireRatingProperties"), ["IfcElement", "IfcSpatialStructureElement"]),
    (("IFC2X2", "Pset_ThermalLoadAggregate"), thermalLoad),
    (("IFC2X2", "Pset_ThermalLoadDesignCriteria"), thermalLoad ++ ["IfcBuilding"]),
    (("IFC2X2", "Pset_ConcreteElementGeneral"), ["IfcBuildingElement"]),
    (("IFC2X2", "Pset_ConcreteElementQuantityGeneral"), ["IfcBuildingElement"]),
    (("IFC2X2", "Pset_ConcreteElementSurfaceFinishQuantityGeneral"), ["IfcBuildingElement"]),
    (("IFC2X2", "Pset_PrecastConcreteElementGeneral"), ["IfcBuildingElement"])]

/-- The classes of a definition that is known to be incomplete; its version and its name may be in
any case. -/
def knownClasses (version set : String) : Option (List String) :=
  (knownClassTable.find? fun entry =>
    entry.1.1 == Text.upper version && Text.sameFolded entry.1.2 set).map (·.2)

end PsetCompiler
