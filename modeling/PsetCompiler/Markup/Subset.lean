import PsetCompiler.Markup.ContentModel
import PsetCompiler.Markup.Expansion

/-!
# Reading document types

The declarations of a document type stand between brackets. An entity that stands for declarations
may be referred to between them; its text is then read as further declarations.

## Main definitions

* `readInstruction`, `readComment` — what may stand anywhere.
* `readEntity`, `readAttributeList`, `readElement`, `readNotation` — the declarations.
* `readDeclarations` — all declarations of a text.
* `readDoctype` — a document type.
-/

namespace PsetCompiler.Markup

/-! ### Comments and instructions -/

/-- A comment, behind its mark. -/
def readComment : Reader (List Char) := do
  let text ← readThrough "--"
  expect ">"
  return text

/-- An instruction, behind its mark: its target and its text. The target is not that of the
document's own declaration. -/
def readInstruction : Reader (String × List Char) := do
  let target ← readName
  if target = "xml" then failure
  if ← ahead "?>" then
    expect "?>"
    return (target, [])
  else
    needSpace
    return (target, ← readThrough "?>")

/-- Targets of instructions that begin as only they may. -/
def knownTargets : List String := ["xml-stylesheet", "xml-model"]

/-- What is noticed of the target of an instruction. -/
def targetNotices (target : String) : List Notice :=
  let name := target.toList.map Char.toLower
  let start : List Notice :=
    if name = "xml".toList then [.blemish]
    else if "xml".toList.isPrefixOf name ∧ !knownTargets.contains target then [.remark]
    else []
  if target.toList.contains ':' then start ++ [.blemish] else start

/-! ### Entities -/

/-- The characters of a declared text: references to characters are replaced, and references to
entities stay as they are. Entities that stand for declarations must not be used there. -/
def declaredText : (fuel : Nat) → Reader (List Char)
  | 0 => failure
  | fuel + 1 => do
    match ← get with
    | [] => return []
    | '%' :: _ => failure
    | '&' :: rest =>
      set rest
      if (← peek) = '#' then
        let _ ← next
        let c ← readCharReference
        return c :: (← declaredText fuel)
      else
        let name ← readName
        expect ";"
        return '&' :: name.toList ++ ';' :: (← declaredText fuel)
    | c :: rest =>
      set rest
      return c :: (← declaredText fuel)

/-- A character of a public identifier. -/
def isPublicChar (c : Char) : Bool :=
  c.isAlphanum || c = ' ' || c = '\n' || c = '\r' || "-'()+,./:=?;!*#@$_%".toList.contains c

/-- A public identifier, behind its word. -/
def readPublic : Reader Unit := do
  expect "PUBLIC"
  needSpace
  unless (← readQuoted).all isPublicChar do failure

/-- The place of a text elsewhere: a system literal, behind a public identifier or alone. -/
def readExternal : Reader (List Char) := do
  if ← ahead "PUBLIC" then readPublic else expect "SYSTEM"
  needSpace
  readQuoted

/-- What a declared entity stands for. The place of a text elsewhere is that of a whole text. -/
def readEntityText : Reader EntityText := do
  let c ← peek
  if c = '"' ∨ c = '\'' then
    let raw ← readQuoted
    return .given (← liftM ((declaredText (raw.length + 1)).run' raw))
  else
    if (← readExternal).contains '#' then failure
    return .elsewhere

/-- The name of an entity and at least one blank. -/
def readEntityName : Reader String := do
  let name ← readName
  if name.toList.contains ':' then failure
  needSpace
  return name

/-- The end of the declaration of an entity, which may say that the entity is no text. -/
def readEntityEnd (text : EntityText) : Reader EntityText := do
  let spaced := isSpace (← peek)
  skipSpace
  if text = .elsewhere ∧ (← peek) = 'N' then
    if !spaced then failure
    expect "NDATA"
    needSpace
    let _ ← readName
    skipSpace
    expect ">"
    return .noText
  else
    expect ">"
    return text

/-- A text that a declaration of a predefined entity may give: the character itself, unless it
begins markup, or a reference to it. -/
def restates (c : Char) (text : List Char) : Bool :=
  (text == [c] && c != '<' && c != '&') ||
    text == "&#".toList ++ Nat.toDigits 10 c.toNat ++ [';'] ||
    text.map Char.toLower == "&#x".toList ++ Nat.toDigits 16 c.toNat ++ [';']

/-- A declaration of an entity. A predefined one may only be declared as what it is. -/
def Doctype.declareEntity (doctype : Doctype) (name : String) (text : EntityText) : Doctype :=
  match predefinedEntities.lookup name, text with
  | some c, .given given => doctype.noticedIf (!restates c given) .blemish
  | some _, _ => doctype.noticed .blemish
  | none, text => { doctype with entities := doctype.entities ++ [(name, text)] }

/-- The declaration of an entity, behind its mark. -/
def readEntity (doctype : Doctype) : Reader Doctype := do
  needSpace
  if (← peek) = '%' then
    let _ ← next
    needSpace
    let name ← readEntityName
    let text ← readEntityText
    skipSpace
    expect ">"
    return { doctype with parameters := doctype.parameters ++ [(name, text)] }
  else
    let name ← readEntityName
    let text ← readEntityEnd (← readEntityText)
    return doctype.declareEntity name text

/-! ### Attributes -/

/-- Words in brackets between which a value may choose, behind the opening bracket. -/
def readChoices (readChoice : Reader String) : (fuel : Nat) → Reader (List String)
  | 0 => failure
  | fuel + 1 => do
    skipSpace
    let choice ← readChoice
    skipSpace
    match ← next with
    | '|' => return choice :: (← readChoices readChoice fuel)
    | ')' => return [choice]
    | _ => failure

/-- The words for the types of attributes. -/
def typeWords : List (String × AttributeType) :=
  [("CDATA", .text), ("ID", .identity), ("IDREF", .name), ("IDREFS", .names), ("ENTITY", .name),
    ("ENTITIES", .names), ("NMTOKEN", .word), ("NMTOKENS", .words)]

/-- The type of an attribute, and the choices that it leaves. -/
def readAttributeType : Reader (AttributeType × List String) := do
  if ← ahead "(" then
    let _ ← next
    return (.words, ← readChoices readWord ((← get).length + 1))
  else
    let word ← readName
    match typeWords.lookup word with
    | some type => return (type, [])
    | none =>
      if word ≠ "NOTATION" then failure
      needSpace
      expect "("
      return (.name, ← readChoices readName ((← get).length + 1))

/-- The value of an attribute where none is written. -/
def readDefault : Reader (Option (List Piece)) := do
  if ← ahead "#" then
    let _ ← next
    let word ← readName
    if word = "REQUIRED" ∨ word = "IMPLIED" then return none
    else if word = "FIXED" then
      needSpace
      return some (← readQuotedValue ((← get).length + 1))
    else failure
  else
    return some (← readQuotedValue ((← get).length + 1))

/-- What is noticed when the entities of a default value are looked up. All have to be declared
already, unless there may be declarations elsewhere. -/
def Doctype.checkDefault (doctype : Doctype) (bound : Nat) (pieces : List Piece) : Option Doctype :=
  ((doctype.checkPieces bound pieces).run {}).map fun (_, progress) =>
    match progress.last with
    | some notice => doctype.noticed notice
    | none => doctype

/-- A rule for an attribute. The first rule counts; an element has one name for itself. -/
def Doctype.declareRule (doctype : Doctype) (rule : AttributeRule) : Doctype :=
  let doctype := doctype.noticedIf (rule.name == "xml:id" && rule.type != .identity) .blemish
  let isFit := rule.default.all rule.type.admits
  let doctype := doctype.noticedIf (!isFit) .blemish
  let rule := if isFit then rule else { rule with default := none }
  if (doctype.rule? rule.owner rule.name).isSome then doctype.noticed .remark
  else
    let isSecond := doctype.rules.any fun other =>
      other.owner == rule.owner && other.type == .identity
    { doctype.noticedIf (rule.type == .identity && isSecond) .blemish with
      rules := doctype.rules ++ [rule] }

/-- The declaration of an attribute of the elements of a name. -/
def readRule (owner : String) (bound : Nat) (doctype : Doctype) : Reader Doctype := do
  let name ← readName
  needSpace
  let (type, choices) ← readAttributeType
  needSpace
  let doctype := doctype.noticedIf (choices.eraseDups.length != choices.length) .blemish
  match ← readDefault with
  | none => return doctype.declareRule { owner, name, type, default := none }
  | some pieces =>
    let doctype ← liftM (doctype.checkDefault bound pieces)
    let default := unexpanded (type.settle pieces)
    return doctype.declareRule { owner, name, type, default := some default }

/-- The rules for attributes up to the end of their declaration. -/
def readRules (owner : String) (bound : Nat) : (fuel : Nat) → Doctype → Reader Doctype
  | 0, _ => failure
  | fuel + 1, doctype => do
    let spaced := isSpace (← peek)
    skipSpace
    if (← peek) = '>' then
      let _ ← next
      return doctype
    else if spaced then
      readRules owner bound fuel (← readRule owner bound doctype)
    else failure

/-- A declaration of attributes, behind its mark. -/
def readAttributeList (bound : Nat) (doctype : Doctype) : Reader Doctype := do
  needSpace
  let owner ← readName
  readRules owner bound ((← get).length + 1) doctype

/-! ### Elements and notations -/

/-- The declaration of the content of an element, behind its mark. -/
def readElement (doctype : Doctype) : Reader Doctype := do
  needSpace
  let name ← readName
  needSpace
  readContentModel
  skipSpace
  expect ">"
  return { doctype.noticedIf (doctype.elements.contains name) .blemish with
           elements := name :: doctype.elements }

/-- The place of a notation, of which a public identifier may be all, and the end of its
declaration. -/
def readNotationPlace : Reader Unit := do
  if ← ahead "PUBLIC" then
    readPublic
    let spaced := isSpace (← peek)
    skipSpace
    if spaced ∧ (← peek) ≠ '>' then
      let _ ← readQuoted
  else
    expect "SYSTEM"
    needSpace
    let _ ← readQuoted
  skipSpace
  expect ">"

/-- The declaration of a notation, behind its mark. -/
def readNotation (doctype : Doctype) : Reader Doctype := do
  needSpace
  let name ← readName
  needSpace
  readNotationPlace
  let doctype := doctype.noticedIf (name.toList.contains ':') .blemish
  return { doctype.noticedIf (doctype.notations.contains name) .blemish with
           notations := name :: doctype.notations }

/-! ### Document types -/

/-- The declarations that are no references, by the marks that begin them. -/
def markedReaders (bound : Nat) (doctype : Doctype) : List (String × Reader Doctype) :=
  [("<!--", do let _ ← readComment; return doctype),
    ("<?", do
      let (target, _) ← readInstruction
      return (targetNotices target).foldl Doctype.noticed doctype),
    ("<!ENTITY", readEntity doctype),
    ("<!ATTLIST", readAttributeList bound doctype),
    ("<!ELEMENT", readElement doctype),
    ("<!NOTATION", readNotation doctype)]

/-- A declaration that is no reference. -/
def readMarkedDeclaration (bound : Nat) (doctype : Doctype) : Reader Doctype := do
  let here ← get
  match (markedReaders bound doctype).find? fun entry => entry.1.toList.isPrefixOf here with
  | some (mark, reader) => do
    expect mark
    reader
  | none => failure

/-- A reference to declarations: what they are, if they can be known. -/
def Doctype.refer (doctype : Doctype) (name : String) : Option (Doctype × List Char) :=
  let doctype := { doctype with reachesOut := true }
  match doctype.parameters.lookup name with
  | some (.given text) => some (doctype, text)
  | some _ => some (doctype, [])
  | none => if doctype.standsAlone then none else some (doctype.noticed .remark, [])

/-- The declarations up to a closing bracket or the end of the text. The bound is used up by
entities that refer to each other, be it in a circle. -/
def readDeclarations (bound fuel : Nat) (doctype : Doctype) : Reader Doctype := do
  skipSpace
  let here ← get
  match fuel, bound, here with
  | _, _, [] => return doctype
  | _, _, ']' :: _ => return doctype
  | fuel + 1, bound + 1, '%' :: rest =>
    set rest
    let name ← readName
    expect ";"
    let (doctype, text) ← liftM (doctype.refer name)
    let (doctype, left) ← liftM ((readDeclarations bound text.length doctype).run text)
    unless left.isEmpty do failure
    readDeclarations (bound + 1) fuel doctype
  | fuel + 1, bound, _ =>
    readDeclarations bound fuel (← readMarkedDeclaration (bound - 1) doctype)
  | 0, _, _ => failure
termination_by (bound, fuel)

/-- The document type of a document, behind its mark. -/
def readDoctype (standsAlone : Bool) : Reader Doctype := do
  needSpace
  let _ ← readName
  skipSpace
  let c ← peek
  let reachesOut ← if c = 'S' ∨ c = 'P' then (do let _ ← readExternal; pure true) else pure false
  skipSpace
  let doctype : Doctype := { standsAlone, reachesOut }
  let doctype ←
    if (← peek) = '[' then do
      let _ ← next
      let doctype ← readDeclarations Doctype.deepestEntity (← get).length doctype
      expect "]"
      pure doctype
    else pure doctype
  skipSpace
  expect ">"
  return doctype

end PsetCompiler.Markup
