import PsetCompiler.Failure
import PsetCompiler.Text.Quoted

/-!
# Diagnostics

What a run reports about its work: what it read and wrote, what it guessed, repaired, dropped or
refused. Each kind of report is a constructor; its level, its channel and its text are functions of
it, so that a statement about reports never speaks about texts.

## Main definitions

* `Level`, `Channel` — how grave a report is, and from which work it comes.
* `Diagnostic` — a report.
* `Diagnostic.level`, `Diagnostic.channel`, `Diagnostic.text` — how it is shown.
-/

namespace PsetCompiler

/-- How grave a report is. -/
inductive Level where
  | debug
  | info
  | warning
  | error
deriving DecidableEq, Repr

/-- The name of a level. -/
def Level.name : Level → String
  | .debug => "DEBUG"
  | .info => "INFO"
  | .warning => "WARNING"
  | .error => "ERROR"

/-- The rank of a level; a threshold lets the ranks from its own on through. -/
def Level.rank : Level → Nat
  | .debug => 10
  | .info => 20
  | .warning => 30
  | .error => 40

/-- The work from which a report comes. -/
inductive Channel where
  /-- Building inheritance forests. -/
  | forest
  /-- Running a stage. -/
  | execution
  /-- Running a pipeline. -/
  | pipeline
  /-- Guessing data types. -/
  | inference
  /-- Making source text. -/
  | sources
  /-- Reading declarations. -/
  | declarations
  /-- Reading schema files. -/
  | schemaFile
  /-- Reading definition files. -/
  | definitionFile
  /-- Merging parameters. -/
  | merging
  /-- Reading parameter files. -/
  | parameterFile
  /-- Collecting and writing enumerations. -/
  | enumWriter
  /-- Resolving applicability. -/
  | resolution
  /-- Making entries of the initializer. -/
  | entries
  /-- The course of a stage. -/
  | course (of : Stage)
deriving DecidableEq, Repr

/-- The name of a channel in log lines. -/
def Channel.name : Channel → String
  | .forest => "psdgen.utils.entity_tree"
  | .execution => "psdgen.core.step_base"
  | .pipeline => "psdgen.core.pipeline_runner"
  | .inference => "psdgen.utils.datatypes"
  | .sources => "psdgen.utils.codegen"
  | .declarations => "psdgen.steps.s01_entity_schema._ifcopenshell_reader"
  | .schemaFile => "psdgen.steps.s01_entity_schema._xsd_reader"
  | .definitionFile => "psdgen.steps.s02_psd_parse._psd_reader"
  | .merging => "psdgen.steps.s03_shared_parameters._merger"
  | .parameterFile => "psdgen.steps.s03_shared_parameters._param_file"
  | .enumWriter => "psdgen.steps.s04_enum_emit._enum_writer"
  | .resolution => "psdgen.steps.s05_applicability._resolver"
  | .entries => "psdgen.steps.s06_pset_source._entries"
  | .course stage => stage.modulePath ++ ".step"

/-- A failure in the words of a report. -/
def Failure.summary (failure : Failure) : String :=
  match failure with
  | .malformedMarkup => "<XMLSyntaxError>"
  | .unreadableMarkup => "<OSError>"
  | .undecodable => "<UnicodeDecodeError>"
  | failure => failure.message?.getD ""

/-- A report about the work of a run. -/
inductive Diagnostic where
  /-- A name is not that of an entity. -/
  | ignoredEntity (name : String)
  /-- A parent is not an entity. -/
  | ignoredParent (parent name : String)
  /-- A parent link would close a cycle. -/
  | refusedCycle (name parent : String)
  /-- A stage looks at its inputs. -/
  | validating (stage : Stage)
  /-- A stage starts its work. -/
  | starting (stage : Stage)
  /-- A stage is done. -/
  | finished (stage : Stage) (seconds : String)
  /-- The settings of a stage are not there. -/
  | settingsMissing (path : String)
  /-- A step depends on one that has not run. -/
  | dependencyMissing (step dependency : String)
  /-- A pipeline begins. -/
  | pipelineStarts (project : String) (steps : Nat)
  /-- A step of a pipeline begins. -/
  | stepStarts (step : String)
  /-- A pipeline is done. -/
  | pipelineEnds
  /-- A data type was guessed from a name. -/
  | inferredType (place dataType : String)
  /-- An item of an enumeration has no identifier of its own. -/
  | skippedItem (enumeration value : String)
  /-- A schema was read from declarations. -/
  | declarationsRead (schema : String) (entities : Nat)
  /-- A schema file was read. -/
  | schemaRead (file : String) (entities enumerations : Nat)
  /-- Declarations need a list of versions. -/
  | versionsNeeded
  /-- The folder of schema files is not there. -/
  | schemaFolderMissing (folder : String)
  /-- No schema file is wanted. -/
  | schemaFilesMissing (folder : String)
  /-- An enumeration of entities was written. -/
  | entityEnumWritten (version : String) (entities : Nat) (file : String)
  /-- All schemas were read. -/
  | schemasLoaded (versions entities : Nat)
  /-- An identifier of a definition spells none. -/
  | malformedGuid (place raw : String)
  /-- A single value has no data type. -/
  | assumedType (place dataType : String)
  /-- A reference names no entity. -/
  | untypedReference (place : String)
  /-- A bounded value has no data type. -/
  | untypedBounds (place : String)
  /-- A list value has no data type. -/
  | untypedList (place : String)
  /-- Items and constants of an enumeration differ in number. -/
  | constantCount (place : String) (items constants : Nat)
  /-- An enumeration has no items but constants. -/
  | constantsUsed (place enumeration : String)
  /-- A complex property inside another one was dropped. -/
  | nestedComplex (place member : String)
  /-- A property has no type. -/
  | typeMissing (place : String)
  /-- A property has a type of no known kind. -/
  | typeUnsupported (place variant : String)
  /-- A property was dropped. -/
  | droppedProperty (error : FormatError)
  /-- A quantity was dropped. -/
  | droppedQuantity (error : FormatError)
  /-- A quantity is of no known type. -/
  | unknownQuantity (set name quantity : String)
  /-- Classes were taken from the known repairs. -/
  | knownClasses (set version : String) (classes : List String)
  /-- A set applies to nothing. -/
  | classesMissing (set version : String)
  /-- A name was used before in the set. -/
  | repeatedProperty (set name : String)
  /-- The folder of definitions is not there. -/
  | definitionsMissing (folder : String)
  /-- No release was found. -/
  | releasesMissing (folder : String)
  /-- A release was found. -/
  | releaseFound (release : String) (files : Nat) (folder : String)
  /-- A definition file was passed over. -/
  | skippedFile (file : String) (failure : Failure)
  /-- All definition files were visited. -/
  | definitionsRead (files skipped sets definitions : Nat)
  /-- A parameter took the identifier of its property. -/
  | adoptedGuid (name guid : String) (before : Option String)
  /-- A row has too few columns. -/
  | shortRow (place : String) (columns : Nat)
  /-- A row names no parameter. -/
  | namelessRow (place : String)
  /-- The identifier of a row spells none. -/
  | rowGuid (place name raw : String)
  /-- The group of a row is no number. -/
  | rowGroup (place name raw : String)
  /-- The type of a row is unknown. -/
  | rowType (place name raw : String) (paramType : String)
  /-- A row repeats a name. -/
  | repeatedRow (place name : String)
  /-- A parameter file could be read in part only. -/
  | cutSeed (file : String) (rows : Nat)
  /-- A parameter file was read. -/
  | seeded (rows : Nat) (path : String)
  /-- The catalog is not there. -/
  | catalogMissing (needed : Stage) (path : String)
  /-- A parameter file to start from is not there. -/
  | seedMissing (path : String)
  /-- All properties were merged. -/
  | merged (properties instances types seeds : Nat)
  /-- An enumeration was met again with other items. -/
  | clashingEnum (key : String) (kept : List String)
  /-- The enumerations of a version were written. -/
  | enumsWritten (version : String) (enumerations : Nat) (file : String)
  /-- All enumerations were written. -/
  | enumsEmitted (enumerations repeated : Nat)
  /-- A class is not in the schema. -/
  | unknownClass (set name version : String)
  /-- An input is not there. -/
  | inputMissing (path : String)
  /-- A version has no definitions. -/
  | versionEmpty (version : String)
  /-- A version was resolved. -/
  | versionResolved (version : String) (sets attached entities : Nat)
  /-- A definition is of a version that cannot be exported. -/
  | unknownVersion (set version : String)
  /-- No definition of a set can be exported. -/
  | nothingExported (set : String)
  /-- The initializer was written. -/
  | initializerWritten (sets entries : Nat) (file : String)
deriving Repr

namespace Diagnostic

/-- How grave a report is. -/
def level : Diagnostic → Level
  | .ignoredEntity .. => .debug
  | .ignoredParent .. => .debug
  | .unknownClass .. => .debug
  | .settingsMissing .. => .warning
  | .dependencyMissing .. => .warning
  | .inferredType .. => .warning
  | .skippedItem .. => .warning
  | .malformedGuid .. => .warning
  | .assumedType .. => .warning
  | .untypedReference .. => .warning
  | .untypedBounds .. => .warning
  | .untypedList .. => .warning
  | .constantCount .. => .warning
  | .constantsUsed .. => .warning
  | .nestedComplex .. => .warning
  | .typeMissing .. => .warning
  | .typeUnsupported .. => .warning
  | .unknownQuantity .. => .warning
  | .knownClasses .. => .warning
  | .repeatedProperty .. => .warning
  | .shortRow .. => .warning
  | .namelessRow .. => .warning
  | .rowGuid .. => .warning
  | .rowGroup .. => .warning
  | .rowType .. => .warning
  | .clashingEnum .. => .warning
  | .versionEmpty .. => .warning
  | .nothingExported .. => .warning
  | .refusedCycle .. => .error
  | .versionsNeeded .. => .error
  | .schemaFolderMissing .. => .error
  | .schemaFilesMissing .. => .error
  | .droppedProperty .. => .error
  | .droppedQuantity .. => .error
  | .classesMissing .. => .error
  | .definitionsMissing .. => .error
  | .releasesMissing .. => .error
  | .skippedFile .. => .error
  | .repeatedRow .. => .error
  | .cutSeed .. => .error
  | .catalogMissing .. => .error
  | .seedMissing .. => .error
  | .inputMissing .. => .error
  | .unknownVersion .. => .error
  | _ => .info

/-- The work from which a report comes. -/
def channel : Diagnostic → Channel
  | .ignoredEntity .. => .forest
  | .ignoredParent .. => .forest
  | .refusedCycle .. => .forest
  | .validating .. => .execution
  | .starting .. => .execution
  | .finished .. => .execution
  | .settingsMissing .. => .pipeline
  | .dependencyMissing .. => .pipeline
  | .pipelineStarts .. => .pipeline
  | .stepStarts .. => .pipeline
  | .pipelineEnds .. => .pipeline
  | .inferredType .. => .inference
  | .skippedItem .. => .sources
  | .declarationsRead .. => .declarations
  | .schemaRead .. => .schemaFile
  | .versionsNeeded .. => .course .schemas
  | .schemaFolderMissing .. => .course .schemas
  | .schemaFilesMissing .. => .course .schemas
  | .entityEnumWritten .. => .course .schemas
  | .schemasLoaded .. => .course .schemas
  | .malformedGuid .. => .definitionFile
  | .assumedType .. => .definitionFile
  | .untypedReference .. => .definitionFile
  | .untypedBounds .. => .definitionFile
  | .untypedList .. => .definitionFile
  | .constantCount .. => .definitionFile
  | .constantsUsed .. => .definitionFile
  | .nestedComplex .. => .definitionFile
  | .typeMissing .. => .definitionFile
  | .typeUnsupported .. => .definitionFile
  | .droppedProperty .. => .definitionFile
  | .droppedQuantity .. => .definitionFile
  | .unknownQuantity .. => .definitionFile
  | .knownClasses .. => .definitionFile
  | .classesMissing .. => .definitionFile
  | .repeatedProperty .. => .definitionFile
  | .definitionsMissing .. => .course .definitions
  | .releasesMissing .. => .course .definitions
  | .releaseFound .. => .course .definitions
  | .skippedFile .. => .course .definitions
  | .definitionsRead .. => .course .definitions
  | .adoptedGuid .. => .merging
  | .shortRow .. => .parameterFile
  | .namelessRow .. => .parameterFile
  | .rowGuid .. => .parameterFile
  | .rowGroup .. => .parameterFile
  | .rowType .. => .parameterFile
  | .repeatedRow .. => .parameterFile
  | .cutSeed .. => .parameterFile
  | .seeded .. => .parameterFile
  | .catalogMissing needed _ => .course needed
  | .seedMissing .. => .course .parameters
  | .merged .. => .course .parameters
  | .clashingEnum .. => .enumWriter
  | .enumsWritten .. => .enumWriter
  | .enumsEmitted .. => .course .enumerations
  | .unknownClass .. => .resolution
  | .inputMissing .. => .course .applicability
  | .versionEmpty .. => .course .applicability
  | .versionResolved .. => .course .applicability
  | .unknownVersion .. => .entries
  | .nothingExported .. => .entries
  | .initializerWritten .. => .course .initializer

/-- The text of a report. -/
def text : Diagnostic → String
  | .ignoredEntity name => "Ignoring non-IFC entity name '" ++ name ++ "'"
  | .ignoredParent parent name => "Ignoring non-IFC parent '" ++ parent ++ "' of " ++ name
  | .refusedCycle name parent => "Refusing " ++ name ++ " -> " ++ parent ++ ": inheritance cycle"
  | .validating stage => "[" ++ stage.name ++ "] Validating inputs..."
  | .starting stage => "[" ++ stage.name ++ "] Starting..."
  | .finished stage seconds => "[" ++ stage.name ++ "] Done in " ++ seconds ++ "s"
  | .settingsMissing path => "Step config " ++ path ++ " not found, using defaults"
  | .dependencyMissing step dependency =>
    "Step '" ++ step ++ "' depends on '" ++ dependency ++ "' which has not run"
  | .pipelineStarts project steps =>
    "Pipeline '" ++ project ++ "' with " ++ toString steps ++ " steps"
  | .stepStarts step => "--- Step: " ++ step ++ " ---"
  | .pipelineEnds => "Pipeline complete."
  | .inferredType place dataType =>
    place ++ ": no property type, inferred " ++ dataType ++ " from the name"
  | .skippedItem enumeration value =>
    enumeration ++ ": skipping enum item '" ++ value ++ "' (empty or duplicate identifier)"
  | .declarationsRead schema entities =>
    "ifcopenshell " ++ schema ++ ": " ++ toString entities ++ " entities"
  | .schemaRead file entities enumerations =>
    file ++ ": " ++ toString entities ++ " entities, " ++ toString enumerations ++
      " predefined-type enumerations"
  | .versionsNeeded => "ifcopenshell source needs an explicit list of versions"
  | .schemaFolderMissing folder => "Schema folder not found: " ++ folder
  | .schemaFilesMissing folder => "No matching .xsd files in " ++ folder
  | .entityEnumWritten version entities file =>
    "Entity enum for " ++ version ++ ": " ++ toString entities ++ " entities -> " ++ file
  | .schemasLoaded versions entities =>
    "Loaded " ++ toString versions ++ " schema versions, " ++ toString entities ++ " entities"
  | .malformedGuid place raw => place ++ ": ignoring malformed ifdguid '" ++ raw ++ "'"
  | .assumedType place dataType => place ++ ": missing DataType, assuming " ++ dataType
  | .untypedReference place =>
    place ++ ": reference value without DataType or reftype, type left to name heuristic"
  | .untypedBounds place => place ++ ": bounded value without DataType, type left to name heuristic"
  | .untypedList place => place ++ ": list value without DataType, type left to name heuristic"
  | .constantCount place items constants =>
    place ++ ": " ++ toString items ++ " enum items but " ++ toString constants ++
      " constant definitions"
  | .constantsUsed place enumeration =>
    place ++ ": EnumList empty, using " ++ enumeration ++ " from ConstantList"
  | .nestedComplex place member => place ++ "." ++ member ++ ": nested complex property dropped"
  | .typeMissing place => place ++ ": Missing PropertyType"
  | .typeUnsupported place variant => place ++ ": unsupported property type " ++ variant
  | .droppedProperty error => "Dropping property: " ++ error.message
  | .droppedQuantity error => "Dropping quantity: " ++ error.message
  | .unknownQuantity set name quantity =>
    set ++ "." ++ name ++ ": unknown QtoType '" ++ quantity ++ "', assuming IfcLabel"
  | .knownClasses set version classes =>
    set ++ " (" ++ version ++ "): no applicable classes, using known fix " ++
      Text.quotedList classes
  | .classesMissing set version =>
    set ++ " (" ++ version ++ "): missing applicable class information"
  | .repeatedProperty set name => set ++ ": duplicate property " ++ name ++ " ignored"
  | .definitionsMissing folder => "PSD root not found: " ++ folder
  | .releasesMissing folder => "No 'psd' folders under " ++ folder
  | .releaseFound release files folder =>
    release ++ ": " ++ toString files ++ " definition files in " ++ folder
  | .skippedFile file failure => "Skipping " ++ file ++ ": " ++ failure.summary
  | .definitionsRead files skipped sets definitions =>
    "Parsed " ++ toString files ++ " files (" ++ toString skipped ++ " skipped): " ++
      toString sets ++ " psets, " ++ toString definitions ++ " versioned definitions"
  | .adoptedGuid name guid before =>
    name ++ ": adopting external GUID " ++ guid ++ " (was " ++ before.getD "None" ++ ")"
  | .shortRow place columns =>
    place ++ ": PARAM row with " ++ toString columns ++ " columns skipped"
  | .namelessRow place => place ++ ": PARAM row without a name skipped"
  | .rowGuid place name raw =>
    place ++ ": " ++ name ++ " has an invalid GUID '" ++ raw ++ "', skipped"
  | .rowGroup place name raw =>
    place ++ ": " ++ name ++ " has a non-integer group '" ++ raw ++ "', skipped"
  | .rowType place name raw paramType =>
    place ++ ": " ++ name ++ " has an unknown data type '" ++ raw ++ "', reclassified as " ++
      paramType
  | .repeatedRow place name =>
    place ++ ": duplicate parameter " ++ name ++ ", keeping the first entry"
  | .cutSeed file rows =>
    file ++ ": cannot decode seed file (<UnicodeDecodeError>), kept " ++ toString rows ++
      " rows read before the error"
  | .seeded rows path => "Seeded " ++ toString rows ++ " parameters from " ++ path
  | .catalogMissing _ path => "psets.json not found: " ++ path
  | .seedMissing path => "Seed file not found: " ++ path
  | .merged properties instances types seeds =>
    "Merged " ++ toString properties ++ " properties: " ++ toString instances ++ " instance, " ++
      toString types ++ " type parameters (" ++ toString seeds ++ " seeded)"
  | .clashingEnum key kept =>
    "Enum " ++ key ++ " already emitted with different items; keeping the first (" ++
      Text.quotedList kept ++ ")"
  | .enumsWritten version enumerations file =>
    version ++ ": " ++ toString enumerations ++ " enumerations -> " ++ file
  | .enumsEmitted enumerations repeated =>
    "Emitted " ++ toString enumerations ++ " enumerations, skipped " ++ toString repeated ++
      " duplicates"
  | .unknownClass set name version => set ++ ": applicable class " ++ name ++ " not in " ++ version
  | .inputMissing path => "Input not found: " ++ path
  | .versionEmpty version => version ++ ": no property set definitions for this version"
  | .versionResolved version sets attached entities =>
    version ++ ": " ++ toString sets ++ " psets, " ++ toString attached ++ "/" ++
      toString entities ++ " entities with psets"
  | .unknownVersion set version =>
    set ++ ": unrecognized schema version " ++ version ++ ", definition not written"
  | .nothingExported set => set ++ ": no exportable version, Init method skipped"
  | .initializerWritten sets entries file =>
    "Wrote " ++ toString sets ++ " pset initializers with " ++ toString entries ++
      " entries -> " ++ file

end Diagnostic

end PsetCompiler
