import PsetCompiler.Markup.Notice
import PsetCompiler.Markup.Reader
import PsetCompiler.Text.Split

/-!
# Document types

A document type declares entities and attributes. Only what stands inside the document is known; a
document type that refers to declarations elsewhere is open, and then an entity without a
declaration is no fault.

## Main definitions

* `EntityText` — what an entity stands for.
* `AttributeType`, `AttributeRule` — what is declared of an attribute.
* `Doctype` — all declarations.
* `Doctype.defaults` — the values that the elements of a name have without being written.
-/

namespace PsetCompiler.Markup

/-- What an entity stands for. -/
inductive EntityText where
  /-- Characters given by the declaration. -/
  | given (text : List Char)
  /-- A text elsewhere, which is never read. -/
  | elsewhere
  /-- Something that is no text. -/
  | noText
deriving DecidableEq, Repr

/-- The types of attributes. -/
inductive AttributeType where
  /-- Any text. -/
  | text
  /-- A name that no other element has for itself. -/
  | identity
  /-- A name. -/
  | name
  /-- Names. -/
  | names
  /-- A word. -/
  | word
  /-- Words. -/
  | words
deriving DecidableEq, Repr

/-- What is declared of an attribute of the elements of a name. -/
structure AttributeRule where
  /-- The name of the elements. -/
  owner : String
  /-- The name of the attribute. -/
  name : String
  type : AttributeType
  /-- The value where none is written, with its references to entities. -/
  default : Option String
deriving DecidableEq, Repr

/-- The declarations of a document type. -/
structure Doctype where
  /-- The entities in the order of their declarations; of two declarations the first counts. -/
  entities : List (String × EntityText) := []
  /-- The entities that stand for declarations. -/
  parameters : List (String × EntityText) := []
  /-- The attributes in the order of their declarations; of two declarations the first counts. -/
  rules : List AttributeRule := []
  /-- The names of the elements whose content is declared. -/
  elements : List String := []
  /-- The names of the notations. -/
  notations : List String := []
  /-- The document says that it needs nothing from elsewhere. -/
  standsAlone : Bool := false
  /-- There are declarations that may not all have been read. -/
  reachesOut : Bool := false
  /-- What was noticed, last notice first. -/
  notices : List Notice := []
deriving Repr

namespace Doctype

/-- An entity may be declared where it cannot be seen. -/
def isOpen (doctype : Doctype) : Bool :=
  doctype.reachesOut && !doctype.standsAlone

/-- The document type with one more notice. -/
def noticed (doctype : Doctype) (notice : Notice) : Doctype :=
  { doctype with notices := notice :: doctype.notices }

/-- The document type with one more notice, where there is something to notice. -/
def noticedIf (doctype : Doctype) (something : Bool) (notice : Notice) : Doctype :=
  if something then doctype.noticed notice else doctype

/-- The rule for an attribute of the elements of a name. -/
def rule? (doctype : Doctype) (owner name : String) : Option AttributeRule :=
  doctype.rules.find? fun rule => rule.owner == owner && rule.name == name

/-- The type of an attribute of the elements of a name. -/
def typeOf (doctype : Doctype) (owner name : String) : AttributeType :=
  ((doctype.rule? owner name).map (·.type)).getD .text

/-- The attributes that the elements of a name have without being written, with their values. -/
def defaults (doctype : Doctype) (owner : String) : List (String × String) :=
  (doctype.rules.filter (·.owner == owner)).filterMap fun rule =>
    rule.default.map fun value => (rule.name, value)

end Doctype

/-! ### Values of a type -/

/-- The pieces without the spaces in front of them. -/
def trimPieces (pieces : List Piece) : List Piece :=
  pieces.dropWhile (· == .char ' ')

/-- The pieces with a single space for every run of spaces. -/
def squeezePieces : List Piece → List Piece
  | .char ' ' :: .char ' ' :: rest => squeezePieces (.char ' ' :: rest)
  | piece :: rest => piece :: squeezePieces rest
  | [] => []

/-- The pieces of a value of a type. Spaces at the ends and all but one between words do not count,
unless the value may be any text. -/
def AttributeType.settle (type : AttributeType) (pieces : List Piece) : List Piece :=
  if type = .text then pieces
  else squeezePieces (trimPieces (trimPieces pieces).reverse).reverse

/-- The text of pieces with their references as they are written; an ampersand becomes a reference.
-/
def unexpanded (pieces : List Piece) : String :=
  String.join (pieces.map fun
    | .char '&' => "&#38;"
    | .char c => String.singleton c
    | .entity name => "&" ++ name ++ ";")

/-- The text may be a value of a type. -/
def AttributeType.admits (type : AttributeType) (value : String) : Bool :=
  let words := Text.splitBy (· = ' ') value.toList
  match type with
  | .text => true
  | .identity => isName value.toList
  | .name => isName value.toList
  | .names => words.all isName
  | .word => isWord value.toList
  | .words => words.all isWord

end PsetCompiler.Markup
