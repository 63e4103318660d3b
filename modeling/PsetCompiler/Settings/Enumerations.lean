import PsetCompiler.Settings.Field
import PsetCompiler.Source.Name

/-!
# Settings of the enumerations stage

## Main definitions

* `EnumSettings`, `EnumOutput` — the records of the stage; its input is a catalog.
-/

namespace PsetCompiler

/-- The namespace of generated enumerations, unless the settings give one. -/
def defaultEnumSpace : String := "Revit.IFC.Export.Exporter.PropertySet"

/-- The settings of the stage. -/
structure EnumSettings where
  language : SourceLanguage := .csharp
  /-- What the names of files begin with. -/
  fileStem : String := "PropertySet"
  space : String := defaultEnumSpace
deriving DecidableEq, Repr

namespace EnumSettings

/-- The description of the settings. -/
def info : RecordInfo where
  title := "EnumEmitConfig"
  fields :=
    [{ name := "language", shape := .word (SourceLanguage.words.map (·.1))
       default := some (.str "csharp"), meaning := "Generated source language" },
      { name := "file_stem", shape := .text, default := some (.str "PropertySet")
        meaning := "Files are named <stem><VERSION>Enum.<ext>" },
      { name := "namespace", shape := .text, default := some (.str defaultEnumSpace)
        meaning := "C# namespace prefix; the version is appended" }]

/-- The settings, read. -/
def read : Json → Checked EnumSettings :=
  readRecord fun fields =>
    EnumSettings.mk <$> .optional "language" .csharp (readLiteral SourceLanguage.words) fields
      <*> .optional "file_stem" "PropertySet" readText fields
      <*> .optional "namespace" defaultEnumSpace readText fields

/-- The settings as JSON. -/
def json (s : EnumSettings) : Json :=
  .obj [("language", .str s.language.name), ("file_stem", .str s.fileStem),
    ("namespace", .str s.space)]

end EnumSettings

/-- The description of the inputs. -/
def enumInputInfo : RecordInfo where
  title := "EnumEmitInput"
  fields := [CatalogInput.catalogField]

/-- The outputs of the stage. -/
structure EnumOutput where
  enumFiles : List Path := []
  enumCount : Int := 0
  duplicateCount : Int := 0
deriving DecidableEq, Repr

namespace EnumOutput

/-- The description of the outputs. -/
def info : RecordInfo where
  title := "EnumEmitOutput"
  fields :=
    [{ name := "enum_files", shape := .list .path
       meaning := "One generated source per version" },
      { name := "num_enums", shape := .number, default := some (.int 0)
        meaning := "Enumerations written across all versions" },
      { name := "num_duplicates", shape := .number, default := some (.int 0)
        meaning := "Enumerations skipped as already emitted" }]

/-- The outputs, read. -/
def read : Json → Checked EnumOutput :=
  readRecord fun fields =>
    EnumOutput.mk <$> .optional "enum_files" [] (readList Path.read) fields
      <*> .optional "num_enums" 0 readWholeNumber fields
      <*> .optional "num_duplicates" 0 readWholeNumber fields

/-- The outputs as JSON. -/
def json (o : EnumOutput) : Json :=
  .obj [("enum_files", .arr (o.enumFiles.map Path.json)), ("num_enums", .int o.enumCount),
    ("num_duplicates", .int o.duplicateCount)]

end EnumOutput

end PsetCompiler
