import PsetCompiler.Markup.Element
import PsetCompiler.Markup.SpaceName
import PsetCompiler.Markup.Token

/-!
# Namespaces in scope

The attributes of a tag that declare namespaces bind labels for the element and all that is inside.
Every label that a name uses should be bound, and no two attributes should have the same name in the
same namespace; a name whose label is not bound is left as it is written.

## Main definitions

* `Scope` — the bindings of labels.
* `Bindings.declare` — one more namespace declared by a tag.
* `Tag`, `readTag` — the attributes of a tag and the scope inside it.
* `startElement` — the element that a tag begins, without content, and the scope inside it.
-/

namespace PsetCompiler.Markup

/-- Labels and their namespaces; the empty label stands for names without one, and an empty
namespace is none. -/
abbrev Scope := List (String × String)

/-- The namespace of the label `xml`. -/
def markupSpace : String := "http://www.w3.org/XML/1998/namespace"

/-- The namespace of declarations of namespaces. -/
def declarationSpace : String := "http://www.w3.org/2000/xmlns/"

/-- What declares the namespace of names without a label, and the label of other declarations. -/
def declarationName : String := "xmlns"

/-- The bindings outside of all elements. -/
def outerScope : Scope := [("xml", markupSpace)]

/-- Where a tag stands. -/
structure Place where
  /-- How many levels of entities may still be opened. -/
  bound : Nat
  /-- The tag is part of the text of an entity. -/
  inEntity : Bool := false

/-! ### Declarations of namespaces -/

/-- The label that an attribute binds, if it declares a namespace. -/
def boundLabel? (name : SplitName) : Option String :=
  if name.label = none ∧ name.localName = declarationName then some ""
  else if name.label = some declarationName then some name.localName
  else none

/-- The labels that a tag binds. -/
structure Bindings where
  scope : Scope
  /-- The labels that this tag has bound. -/
  own : List String := []

namespace Bindings

/-- A label is bound. A tag must not bind it twice. -/
def bind (b : Bindings) (label space : String) : Option Bindings :=
  if b.own.contains label then none
  else some { scope := (label, space) :: b.scope, own := label :: b.own }

/-- The namespace of names without a label is declared. -/
def declareDefault (b : Bindings) (space : String) : Building Bindings := do
  if space ≠ "" ∧ !SpaceName.isFull space then
    note (if SpaceName.isRelative space then .remark else .blemish)
  if space = markupSpace ∨ space = declarationSpace then
    note .blemish
    return b
  liftM (b.bind "" space)

/-- The binding of a label to a namespace is allowed. -/
def mayBind (label space : String) : Bool :=
  label ≠ declarationName && space ≠ markupSpace && space ≠ declarationSpace && space ≠ ""

/-- The namespace of a label is declared. -/
def declareLabel (b : Bindings) (label space : String) : Building Bindings := do
  if label = "xml" then
    noteIf (space != markupSpace) .blemish
    return b
  else if mayBind label space then
    noteIf (!SpaceName.isFull space && !SpaceName.isRelative space) .blemish
    liftM (b.bind label space)
  else
    note .blemish
    return b

/-- A namespace is declared. -/
def declare (b : Bindings) (label space : String) : Building Bindings :=
  if label = "" then b.declareDefault space else b.declareLabel label space

/-- A namespace is declared for all elements of a name, unless the tag has declared one itself. -/
def declareUnwritten (b : Bindings) (default : String × String) : Bindings :=
  match (splitName? default.1).bind boundLabel? with
  | some label => (b.bind label default.2).getD b
  | none => b

/-- The namespace that a label is bound to. -/
def space? (b : Bindings) (label : String) : Option String :=
  b.scope.lookup label

/-- Names without a label may have no namespace. Other labels should be bound. -/
def isBound (b : Bindings) (label : Option String) : Bool :=
  label.all fun label => (b.space? label).isSome

end Bindings

/-! ### Attributes -/

/-- An attribute of a tag that declares no namespace. -/
structure TagAttribute where
  /-- The name as it is written. -/
  written : String
  name : SplitName
  value : String
  /-- The value is written without references to entities. -/
  isLiteral : Bool

/-- The attributes of a tag, last one first, and the labels that it binds. -/
structure Tag where
  bindings : Bindings
  attributes : List TagAttribute := []

/-- The values of the attribute that says what becomes of blanks. -/
def blankWords : List String := ["default", "preserve"]

/-- An attribute of the tag of an element. -/
def Tag.add (doctype : Doctype) (place : Place) (element : String) (tag : Tag)
    (source : String × List Piece) : Building Tag := do
  let (written, pieces) := source
  let name ← liftM (splitName? written)
  noteIf (!name.isSound) .blemish
  noteLoss (pieces.filterMap fun | .char c => some c | .entity _ => none)
  let pieces := (doctype.typeOf element written).settle pieces
  let value ← doctype.expand (place.bound - 1) pieces
  match boundLabel? name with
  | some label => return { tag with bindings := ← tag.bindings.declare label value }
  | none =>
    noteIf (written == "xml:space" && !blankWords.contains (unexpanded pieces)) .remark
    let isLiteral := (pieces.filterMap Piece.entity?).isEmpty
    return { tag with attributes := { written, name, value, isLiteral } :: tag.attributes }

/-- The namespace and the local part of the name of an attribute. Attributes without a label have no
namespace. -/
def Bindings.placeOf (b : Bindings) (name : SplitName) : Option String × String :=
  (name.label.bind b.space?, name.localName)

/-- No attribute may be written twice, and no two should have the same name in the same namespace.
-/
def checkDistinct (b : Bindings) : List TagAttribute → Building Unit
  | [] => return ()
  | a :: rest => do
    if rest.any (·.written == a.written) then failure
    noteIf (rest.any fun other => b.placeOf other.name == b.placeOf a.name) .blemish
    checkDistinct b rest

/-- The labels of attributes should be bound, also those of attributes that are not written. -/
def checkLabels (b : Bindings) (names : List SplitName) : Building Unit :=
  names.forM fun name => noteIf (!b.isBound name.label) .blemish

/-- The tag of an element with its attributes and the labels inside it. -/
def readTag (doctype : Doctype) (place : Place) (scope : Scope) (element : String)
    (attributes : List (String × List Piece)) : Building Tag := do
  let tag ← attributes.foldlM (Tag.add doctype place element) { bindings := { scope } }
  let unwritten := doctype.defaults element
  let bindings := unwritten.foldl Bindings.declareUnwritten tag.bindings
  let attributes := tag.attributes.reverse
  checkLabels bindings (attributes.map (·.name))
  checkDistinct bindings attributes
  checkLabels bindings
    ((unwritten.filterMap fun a => splitName? a.1).filter fun name => (boundLabel? name).isNone)
  return { bindings, attributes }

/-! ### Elements -/

/-- The attributes without a namespace. One whose label is not bound keeps the name as written. -/
def Tag.plainAttributes (tag : Tag) : List (String × String) :=
  tag.attributes.filterMap fun a =>
    match a.name.label with
    | none => some (a.name.localName, a.value)
    | some label =>
      if (tag.bindings.space? label).isSome then none else some (a.written, a.value)

/-- A name that an element has for itself, which should be there and differ from all others. -/
def registerIdentity (value : String) : Building Unit := do
  if value = "" ∨ (← get).identities.contains value then note .blemish
  else modify fun progress => { progress with identities := value :: progress.identities }

/-- The attributes that give an element a name for itself. -/
def registerIdentities (doctype : Doctype) (element : String) (tag : Tag) : Building Unit :=
  (tag.attributes.filter (·.isLiteral)).forM fun a => do
    if a.written = "xml:id" then
      let name := ((a.value.toList.dropWhile isSpace).reverse.dropWhile isSpace).reverse
      noteIf (!isPlainName name) .blemish
      registerIdentity a.value
    else if doctype.typeOf element a.written = .identity then
      registerIdentity a.value

/-- The element that a tag begins, without content, and the scope inside it. -/
def startElement (doctype : Doctype) (place : Place) (scope : Scope) (written : String)
    (attributes : List (String × List Piece)) : Building (Element × Scope) := do
  let name ← liftM (splitName? written)
  noteIf (!name.isSound) .blemish
  let tag ← readTag doctype place scope written attributes
  noteIf (!tag.bindings.isBound name.label) .blemish
  unless place.inEntity do registerIdentities doctype written tag
  let element : Element := {
    space := (tag.bindings.space? (name.label.getD "")).filter (· ≠ "")
    name := if tag.bindings.isBound name.label then name.localName else written
    attributes := tag.plainAttributes
    unwritten := doctype.defaults written }
  return (element, tag.bindings.scope)

end PsetCompiler.Markup
