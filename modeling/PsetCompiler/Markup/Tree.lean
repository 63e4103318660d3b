import PsetCompiler.Markup.Scope

/-!
# From tokens to elements

The tokens of a document are a document type, perhaps, and one element, with blanks, comments and
instructions around them. Elements grow on a stack: a tag begins one, and the tag of the same name
ends it. A reference to an entity stays one, but the text of the entity has to be content of its
own.

## Main definitions

* `Frame` — an element that is not ended yet.
* `grow` — the element on the stack, grown by tokens.
* `checkContent` — the text of an entity is content of its own.
* `rootElement` — the element of a document.
-/

namespace PsetCompiler.Markup

/-- An element that is not ended yet. -/
structure Frame where
  /-- The name as it is written. -/
  written : String
  scope : Scope
  /-- The element without its content. -/
  element : Element
  /-- The content so far, last part first. -/
  content : List (Node Element) := []

/-- One more part of the content. -/
def Frame.add (frame : Frame) (node : Node Element) : Frame :=
  { frame with content := node :: frame.content }

/-- Characters added to the content; they join those just before them. -/
def Frame.addChars (frame : Frame) (text : List Char) : Frame :=
  match frame.content with
  | .chars before :: rest =>
    { frame with content := .chars (before ++ String.ofList text) :: rest }
  | _ => frame.add (.chars (String.ofList text))

/-- The element with its content. -/
def Frame.finished (frame : Frame) : Element :=
  { frame.element with content := frame.content.reverse }

/-- How deep elements may be nested. -/
def deepestNesting : Nat := 256

/-- What is noticed of an instruction. -/
def noteInstruction (target : String) (text : List Char) : Building Unit := do
  (targetNotices target).forM note
  noteLoss text

/-- The innermost element of a stack, grown by tokens until the outermost one has ended; the tokens
behind it are left. -/
def grow (doctype : Doctype) (place : Place) (checkReference : String → Building Unit)
    (top : Frame) (below : List Frame) : List Token → Building (Element × List Token)
  | [] => failure
  | token :: rest =>
    match token with
    | .chars text => do
      noteLoss text
      grow doctype place checkReference (top.addChars text) below rest
    | .written text => do
      noteLoss text
      grow doctype place checkReference (top.addChars text) below rest
    | .comment text => do
      noteLoss text
      grow doctype place checkReference top below rest
    | .instruction target text => do
      noteInstruction target text
      grow doctype place checkReference (top.add .opaqueMark) below rest
    | .doctype _ => failure
    | .entity name => do
      checkReference name
      grow doctype place checkReference (top.add .opaqueMark) below rest
    | .start name attributes isEmpty => do
      let (element, scope) ← startElement doctype place top.scope name attributes
      if below.length + 2 > deepestNesting then failure
      else if isEmpty then grow doctype place checkReference (top.add (.element element)) below rest
      else grow doctype place checkReference { written := name, scope, element } (top :: below) rest
    | .finish name =>
      if name = top.written then
        match below with
        | [] => return (top.finished, rest)
        | outer :: others =>
          grow doctype place checkReference (outer.add (.element top.finished)) others rest
      else failure

/-- The text is content of its own: all elements that begin in it end in it. Labels that are bound
around the text are not bound inside. -/
def checkTokens (doctype : Doctype) (place : Place) (checkReference : String → Building Unit)
    (text : List Char) : Building Unit := do
  let (found, complete) := tokens doctype.standsAlone text
  if !complete then failure
  let frame : Frame := { written := "", scope := outerScope, element := { name := "" } }
  let (_, rest) ← grow doctype place checkReference frame [] (found ++ [.finish ""])
  if !rest.isEmpty then failure

/-- What a reference in content stands for is content of its own. The bound is used up by entities
that refer to each other, be it in a circle. -/
def checkContent (doctype : Doctype) : (bound : Nat) → String → Building Unit
  | 0, _ => failure
  | bound + 1, name =>
    match doctype.entities.lookup name with
    | some .elsewhere => return ()
    | _ => do
      let some text ← doctype.textOf name | return
      if !(← get).parsed.contains name then
        checkTokens doctype { bound, inEntity := true } (checkContent doctype bound) text
        modify fun progress => { progress with parsed := name :: progress.parsed }
      doctype.count name

/-- The tokens behind blanks, comments and instructions. -/
def passMiscellany : List Token → Building (List Token)
  | .comment text :: rest => do
    noteLoss text
    passMiscellany rest
  | .instruction target text :: rest => do
    noteInstruction target text
    passMiscellany rest
  | .chars text :: rest =>
    if text.all isSpace then passMiscellany rest else return .chars text :: rest
  | rest => return rest

/-- The document type and the tokens behind it; without one nothing is declared. -/
def takeDoctype (standsAlone : Bool) : List Token → Building (Doctype × List Token)
  | .doctype declarations :: rest => do
    declarations.notices.reverse.forM note
    return (declarations, ← passMiscellany rest)
  | rest => return ({ standsAlone }, rest)

/-- The element that tokens begin with, and the tokens behind it. -/
def takeElement (doctype : Doctype) : List Token → Building (Element × List Token)
  | .start name attributes isEmpty :: rest => do
    let place : Place := { bound := Doctype.deepestEntity }
    let (element, scope) ← startElement doctype place outerScope name attributes
    if isEmpty then return (element, rest)
    else
      grow doctype place (checkContent doctype place.bound) { written := name, scope, element } []
        rest
  | _ => failure

/-- The element of a document from its tokens, of which `complete` says whether they are all.
Nothing may follow the element; where there are losses, nothing that follows it is looked at. -/
def rootElement (standsAlone : Bool) (document : List Token) (complete : Bool) :
    Building Element := do
  let (doctype, rest) ← takeDoctype standsAlone (← passMiscellany document)
  let (root, rest) ← takeElement doctype rest
  let rest ← passMiscellany rest
  if rest.isEmpty then
    if complete then return root else failure
  else if (← get).lossy then return root
  else failure

end PsetCompiler.Markup
