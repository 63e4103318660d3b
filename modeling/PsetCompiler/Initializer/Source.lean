import PsetCompiler.Enumeration.Source
import PsetCompiler.Initializer.Entry

/-!
# The initializer as source text

The class that sets up all property set descriptions, line by line.

## Main definitions

* `entryLines`, `blockLines`, `methodLines` — the lines of the parts.
* `initializerSource` — the text of the file.
-/

namespace PsetCompiler

/-- A text between double quotes. -/
def sourceLiteral (s : String) : String :=
  "\"" ++ escapeLiteral s ++ "\""

/-- A line for a value that is there and not empty. -/
def lineFor (value : Option String) (line : String → String) : List String :=
  match value with
  | some s => if s = "" then [] else [line s]
  | none => []

/-- The lines that look for a calculator; an empty namespace leaves them out. -/
def calculatorLines (space calculator : String) : List String :=
  if space = "" then []
  else
    ["            calcType = System.Reflection.Assembly.GetExecutingAssembly().GetType(\"" ++
        space ++ "." ++ escapeLiteral calculator ++ "\");",
      "            if (calcType != null)",
      "               ifcPSE.PropertyCalculator = (PropertyCalculator) " ++
        "calcType.GetConstructor(Type.EmptyTypes).Invoke(new object[]\x7b\x7d);"]

/-- The lines of an entry. -/
def entryLines (variableName calculatorSpace : String) (e : InitEntry) : List String :=
  ["",
    "            ifcPSE = new " ++ e.entryClass ++ "(" ++ sourceLiteral e.paramName ++ ", " ++
      sourceLiteral e.propertyName ++ ");",
    "            ifcPSE.PropertyName = " ++ sourceLiteral e.propertyName ++ ";"] ++
  lineFor e.argumentType (fun t =>
    "            ifcPSE.PropertyArgumentType = " ++ e.typeEnum ++ "." ++ t ++ ";") ++
  ["            ifcPSE." ++ e.typeEnum ++ " = " ++ e.typeEnum ++ "." ++ e.propertyType ++ ";"] ++
  lineFor e.valueType (fun t =>
    "            ifcPSE.PropertyValueType = PropertyValueType." ++ t ++ ";") ++
  lineFor e.enumType (fun t =>
    "            ifcPSE.PropertyEnumerationType = typeof(" ++ t ++ ");") ++
  e.localizedNames.map (fun n =>
    "            ifcPSE.AddLocalizedParameterName(LanguageType." ++ n.language ++ ", " ++
      sourceLiteral n.text ++ ");") ++
  calculatorLines calculatorSpace e.calculator ++
  ["            " ++ variableName ++ ".AddEntry(ifcPSE);"]

/-- The lines of a block. -/
def blockLines (m : InitMethod) (calculatorSpace : String) (b : InitBlock) : List String :=
  ["",
    "         if (ExporterCacheManager.ExportOptionsCache." ++ b.exportFlag ++
      " && certifiedEntityAndPsetList." ++ m.allowCheck ++
      "(ExporterCacheManager.ExportOptionsCache.FileVersion.ToString().ToUpper(), " ++
      sourceLiteral m.name ++ "))",
    "         \x7b"] ++
  b.entityTypes.map (fun entity =>
    "            " ++ m.variableName ++ ".EntityTypes.Add(IFCEntityType." ++ entity ++ ");") ++
  b.entries.flatMap (entryLines m.variableName calculatorSpace) ++
  ["         \x7d"]

/-- The lines of a method. -/
def methodLines (calculatorSpace : String) (m : InitMethod) : List String :=
  ["",
    "      private static void " ++ m.methodName ++
      "(IList<PropertySetDescription> commonPropertySets)",
    "      \x7b",
    "         PropertySetDescription " ++ m.variableName ++ " = new PropertySetDescription();",
    "         PropertySetEntry ifcPSE = null;",
    "         Type calcType = null;"] ++
  m.blocks.flatMap (blockLines m calculatorSpace) ++
  ["",
    "         if (ifcPSE != null)",
    "         \x7b",
    "            " ++ m.variableName ++ ".Name = " ++ sourceLiteral m.name ++ ";",
    "            commonPropertySets.Add(" ++ m.variableName ++ ");",
    "         \x7d",
    "      \x7d"]

/-- The lines before the list of methods. -/
def headingLines (space : String) : List String :=
  ["// Property set definitions.", "// Generated by psdgen. Do not edit.", "", "using System;",
    "using System.Collections.Generic;", "using Revit.IFC.Export.Exporter.PropertySet;",
    "using Revit.IFC.Export.Utility;", "using Revit.IFC.Export.Toolkit;",
    "using Revit.IFC.Common.Enums;", "", "namespace " ++ space, "\x7b",
    "   partial class ExporterInitializer", "   \x7b",
    "      public static void InitCommonPropertySets(IList<IList<PropertySetDescription>> " ++
      "propertySets)",
    "      \x7b",
    "         IList<PropertySetDescription> commonPropertySets = new List<PropertySetDescription>();"]

/-- The lines of the file. -/
def initializerLines (methods : List InitMethod) (space calculatorSpace : String) : List String :=
  headingLines space ++
  methods.map (fun m => "         " ++ m.methodName ++ "(commonPropertySets);") ++
  ["", "         propertySets.Add(commonPropertySets);", "      \x7d"] ++
  methods.flatMap (methodLines calculatorSpace) ++
  ["   \x7d", "\x7d"]

/-- The text of the file; an empty calculator namespace leaves out the look-up of calculators. -/
def initializerSource (methods : List InitMethod) (space : String)
    (calculatorSpace : String := "") : String :=
  textOfLines (initializerLines methods space calculatorSpace)

end PsetCompiler
