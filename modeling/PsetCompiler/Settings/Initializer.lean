import PsetCompiler.Settings.Field

/-!
# Settings of the initializer stage

## Main definitions

* `InitializerSettings`, `InitializerOutput` — the records of the stage; its input is a catalog.
-/

namespace PsetCompiler

/-- The name of the generated file, unless the settings give one. -/
def defaultInitializerFile : String := "ExporterInitializer_PsetDef.cs"

/-- The namespace of the initializer, unless the settings give one. -/
def defaultInitializerSpace : String := "Revit.IFC.Export.Exporter"

/-- The namespace of enumerations to which entries refer, unless the settings give one. -/
def defaultReferenceSpace : String := "Revit.IFC.Export.Exporter.PropertySet"

/-- The namespace of calculators, unless the settings give one. -/
def defaultCalculatorSpace : String := "Revit.IFC.Export.Exporter.PropertySet.Calculators"

/-- The settings of the stage. -/
structure InitializerSettings where
  outputName : String := defaultInitializerFile
  space : String := defaultInitializerSpace
  enumSpace : String := defaultReferenceSpace
  calculatorSpace : String := defaultCalculatorSpace
  /-- Entries look up calculators. -/
  calculatorHook : Bool := true
deriving DecidableEq, Repr

namespace InitializerSettings

/-- The description of the settings. -/
def info : RecordInfo where
  title := "PsetSourceConfig"
  fields :=
    [{ name := "output_name", shape := .text, default := some (.str defaultInitializerFile)
       meaning := "Generated file name" },
      { name := "namespace", shape := .text, default := some (.str defaultInitializerSpace)
        meaning := "Namespace of the initializer class" },
      { name := "enum_namespace", shape := .text, default := some (.str defaultReferenceSpace)
        meaning := "Namespace prefix of the enumerations written by enum_emit" },
      { name := "calculator_namespace", shape := .text
        default := some (.str defaultCalculatorSpace)
        meaning := "Namespace searched for <Property>Calculator classes" },
      { name := "calculator_hook", shape := .flag, default := some (.bool true)
        meaning := "Emit the calculator lookup after each entry" }]

/-- The settings, read. -/
def read : Json → Checked InitializerSettings :=
  readRecord fun fields =>
    InitializerSettings.mk <$> .optional "output_name" defaultInitializerFile readText fields
      <*> .optional "namespace" defaultInitializerSpace readText fields
      <*> .optional "enum_namespace" defaultReferenceSpace readText fields
      <*> .optional "calculator_namespace" defaultCalculatorSpace readText fields
      <*> .optional "calculator_hook" true readFlag fields

/-- The settings as JSON. -/
def json (s : InitializerSettings) : Json :=
  .obj [("output_name", .str s.outputName), ("namespace", .str s.space),
    ("enum_namespace", .str s.enumSpace), ("calculator_namespace", .str s.calculatorSpace),
    ("calculator_hook", .bool s.calculatorHook)]

end InitializerSettings

/-- The description of the inputs. -/
def initializerInputInfo : RecordInfo where
  title := "PsetSourceInput"
  fields := [CatalogInput.catalogField]

/-- The outputs of the stage. -/
structure InitializerOutput where
  sourceFile : Path
  methodCount : Int := 0
  entryCount : Int := 0
deriving DecidableEq, Repr

namespace InitializerOutput

/-- The description of the outputs. -/
def info : RecordInfo where
  title := "PsetSourceOutput"
  fields :=
    [{ name := "source_file", shape := .path, isRequired := true
       meaning := "Generated initializer source" },
      { name := "num_psets", shape := .number, default := some (.int 0)
        meaning := "Init methods written" },
      { name := "num_entries", shape := .number, default := some (.int 0)
        meaning := "Property entries written across all versions" }]

/-- The outputs, read. -/
def read : Json → Checked InitializerOutput :=
  readRecord fun fields =>
    InitializerOutput.mk <$> .required "source_file" Path.read fields
      <*> .optional "num_psets" 0 readWholeNumber fields
      <*> .optional "num_entries" 0 readWholeNumber fields

/-- The outputs as JSON. -/
def json (o : InitializerOutput) : Json :=
  .obj [("source_file", o.sourceFile.json), ("num_psets", .int o.methodCount),
    ("num_entries", .int o.entryCount)]

end InitializerOutput

end PsetCompiler
