import PsetCompiler.Definition.KnownClasses
import PsetCompiler.Definition.Property
import PsetCompiler.Markup.Document
import PsetCompiler.PropertySet

/-!
# Definition files

A file defines a property set or a set of quantities. Its header gives the name, the version and the
classes; its properties follow. Of properties of one name the first counts.

## Main definitions

* `readHeader` — a definition without its properties.
* `SetKind`, `readSet` — the two kinds of sets, and the definition of an element.
* `readDefinition` — the definition of a file.
-/

namespace PsetCompiler

open Markup (Element Found)

/-- The version that a definition declares, as it is written. -/
def declaredVersion (root : Element) : Except Failure (Option String) :=
  return (← root.child? "IfcVersion").map fun version =>
    (version.filledAttribute? "version").getD (Text.strip (version.text?.getD ""))

/-- The classes that are named anywhere in a definition. -/
def namedClasses (root : Element) : Except Failure (List String) :=
  return (← (root.descendants "ClassName").all).filterMap fun e => e.text?.bind cleanClassName

/-- The classes of a definition. When it names none, the known ones take their place, or the lack is
reported. -/
def settledClasses (name version : String) (declared : Option String) (named : List String) :
    Report (List String) :=
  if !named.isEmpty then return named
  else
    let bare := bareVersion declared
    match knownClasses (if Text.startsWith "IFC4" bare then bare else version) name with
    | some classes => do
      report (.knownClasses name version classes)
      return classes
    | none => do
      report (.classesMissing name version)
      return []

/-- A definition without its properties. -/
def readHeader (root : Element) (release : String) : Attempt PropertySet := do
  match ← root.childText? "Name" with
  | none => throw (.format (.namelessSet root.name))
  | some name =>
    let declared ← declaredVersion root
    let version := normalizeVersion declared release
    let ifdGuid ← normalizeGuid (root.attribute? "ifdguid") name
    let named ← namedClasses root
    let applicable := ((← root.childText? "ApplicableTypeValue").map parseApplicableType).getD {}
    let classes ←
      settledClasses name version declared (named ++ applicable.extraClasses).eraseDups
    return { name, version, release, ifdGuid, applicableClasses := classes
             applicableType := applicable.applicableType
             predefinedType := applicable.predefinedType }

/-- One more property, unless its name is taken. -/
def addUnique (set : String) (properties : List Property) (p : Option Property) :
    Report (List Property) :=
  match p with
  | none => return properties
  | some p =>
    if properties.any (·.name == p.name) then do
      report (.repeatedProperty set p.name)
      return properties
    else return properties ++ [p]

/-- The kinds of sets. -/
inductive SetKind where
  /-- Properties with values of all types. -/
  | properties
  /-- Quantities. -/
  | quantities
deriving DecidableEq, Repr

namespace SetKind

/-- The kind of set that the name of a root element tells. -/
def ofRoot? : String → Option SetKind
  | "PropertySetDef" => some .properties
  | "QtoSetDef" => some .quantities
  | _ => none

/-- The names of the element that holds the properties of a set, and of the elements of the
properties. -/
def partNames : SetKind → String × String
  | .properties => ("PropertyDefs", "PropertyDef")
  | .quantities => ("QtoDefs", "QtoDef")

/-- The elements of the properties of a set. -/
def parts (kind : SetKind) (root : Element) : Except Failure (Found Element) := do
  match ← root.child? kind.partNames.1 with
  | none => return {}
  | some parts => return parts.children kind.partNames.2

/-- A property of a set of the kind. -/
def readPart : SetKind → String → Element → Attempt (Option Property)
  | .properties => readProperty
  | .quantities => readQuantity

end SetKind

/-- The properties of a set, the first of every name. -/
def readParts (kind : SetKind) (set : String) (parts : Found Element) :
    Attempt (List Property) := do
  let properties ← parts.values.foldlM (fun properties e => do
    addUnique set properties (← kind.readPart set e)) []
  let _ ← parts.all
  return properties

/-- The definition of an element, which was read from a file for a release. -/
def readSet (root : Element) (file release : String) : Attempt PropertySet := do
  match SetKind.ofRoot? (← root.localName) with
  | none => throw (.format (.unexpectedRoot file root.name))
  | some kind =>
    let header ← readHeader root release
    let properties ← readParts kind header.name (← kind.parts root)
    return { header with properties }

/-- The definition of the content of a file. -/
def readDefinition (content : Text.Bytes) (file release : String) : Attempt PropertySet := do
  readSet (← liftM (Markup.parseDocument content)) file release

end PsetCompiler
