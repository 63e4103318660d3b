import PsetCompiler.Markup.Doctype

/-!
# Entities in values

In the value of an attribute an entity is replaced by its text, in which no element may begin and
which may refer to other entities. There are bounds to how deep entities are nested and to how much
text they make, so that small documents stay small.

## Main definitions

* `Progress`, `Building` — what has been noticed of a document so far, and computations that notice.
* `Doctype.checkPieces` — entities may be replaced.
* `Doctype.expand` — pieces with their entities replaced.
-/

namespace PsetCompiler.Markup

/-- What has been noticed of a document so far. -/
structure Progress where
  last : Option Notice := none
  /-- A loss was noticed. -/
  lossy : Bool := false
  /-- The names that elements have for themselves. -/
  identities : List String := []
  /-- The entities that may stand in values. -/
  checked : List String := []
  /-- The entities whose texts are content of their own. -/
  parsed : List String := []
  /-- How much text entities have made. -/
  made : Nat := 0
deriving Repr

/-- A computation that notices things, or fails. -/
abbrev Building := StateT Progress Option

/-- A notice. -/
def note (notice : Notice) : Building Unit :=
  modify fun progress => { progress with last := some notice }

/-- A notice, where there is something to notice. -/
def noteIf (noticed : Bool) (notice : Notice) : Building Unit :=
  if noticed then note notice else pure ()

/-- A loss, if characters of a text were lost. Only the first loss is noticed. -/
def noteLoss (text : List Char) : Building Unit :=
  modify fun progress =>
    if text.contains lostChar && !progress.lossy then
      { progress with last := some .loss, lossy := true }
    else progress

/-! ### Texts of entities -/

/-- The pieces of a text that is used in a value, where no element may begin. -/
def readPieces : (fuel : Nat) → Reader (List Piece)
  | 0 => failure
  | fuel + 1 => do
    match ← get with
    | [] => return []
    | '<' :: _ => failure
    | '&' :: rest =>
      set rest
      let piece ← readReference
      return piece :: (← readPieces fuel)
    | c :: rest =>
      set rest
      return .char c :: (← readPieces fuel)

/-- The pieces of the text of an entity. -/
def piecesOf? (text : List Char) : Option (List Piece) :=
  (readPieces (text.length + 1)).run' text

namespace Doctype

/-- The text of an entity that is used where it has to be a text of this document. There is none for
an entity that may be declared elsewhere. -/
def textOf (doctype : Doctype) (name : String) : Building (Option (List Char)) :=
  match doctype.entities.lookup name with
  | some (.given text) => return some text
  | some _ => failure
  | none => do
    if !doctype.isOpen then failure
    note .remark
    return none

/-- An entity may be replaced in a value. The bound is used up by entities that refer to each other,
be it in a circle. -/
def checkEntity (doctype : Doctype) : (bound : Nat) → String → Building Unit
  | 0, _ => failure
  | bound + 1, name => do
    if (← get).checked.contains name then return
    let some text ← doctype.textOf name | return
    let pieces ← liftM (piecesOf? text)
    (pieces.filterMap Piece.entity?).forM (doctype.checkEntity bound)
    modify fun progress => { progress with checked := name :: progress.checked }

/-- The entities among pieces may be replaced. -/
def checkPieces (doctype : Doctype) (bound : Nat) (pieces : List Piece) : Building Unit :=
  (pieces.filterMap Piece.entity?).forM (doctype.checkEntity bound)

/-! ### How much text entities make -/

/-- What a reference counts, apart from the text it makes. -/
def referenceCost : Nat := 20

/-- How much text entities may make. -/
def mostText : Nat := 1000000

/-- How deep entities may be nested. -/
def deepestEntity : Nat := 20

/-- How much text the pieces of an entity make, when it is known of the entities inside. -/
def sizeWith (inner : List (String × Nat)) (text : EntityText) : Nat :=
  match text with
  | .given text =>
    let names := ((piecesOf? text).getD []).filterMap Piece.entity?
    names.foldl (fun size name => size + (inner.lookup name).getD 0 + referenceCost) text.length
  | _ => 0

/-- How much text the entities make whose nesting is not deeper than a number of levels. -/
def sizes (doctype : Doctype) : (levels : Nat) → List (String × Nat)
  | 0 => []
  | levels + 1 =>
    let inner := doctype.sizes levels
    doctype.entities.map fun (name, text) => (name, sizeWith inner text)

/-- The text that a reference makes is counted; there must not be too much of it. -/
def count (doctype : Doctype) (name : String) : Building Unit := do
  let size := ((doctype.sizes deepestEntity).lookup name).getD 0 + referenceCost
  let made := (← get).made + size
  if made > mostText then failure
  modify fun progress => { progress with made }

/-! ### Replacing -/

mutual

/-- The text of an entity with the entities inside replaced. -/
def expandEntity (doctype : Doctype) : (bound : Nat) → String → List Char
  | 0, _ => []
  | bound + 1, name =>
    match doctype.entities.lookup name with
    | some (.given text) => doctype.expandPieces bound ((piecesOf? text).getD [])
    | _ => []
termination_by bound _ => (bound, 0)

/-- Pieces with their entities replaced. -/
def expandPieces (doctype : Doctype) (bound : Nat) : List Piece → List Char
  | [] => []
  | .char c :: rest => c :: doctype.expandPieces bound rest
  | .entity name :: rest => doctype.expandEntity bound name ++ doctype.expandPieces bound rest
termination_by pieces => (bound, pieces.length + 1)

end

/-- Pieces with their entities replaced, if that may be done. -/
def expand (doctype : Doctype) (bound : Nat) (pieces : List Piece) : Building String := do
  doctype.checkPieces bound pieces
  (pieces.filterMap Piece.entity?).forM doctype.count
  return String.ofList (doctype.expandPieces bound pieces)

end Doctype

end PsetCompiler.Markup
