import PsetCompiler.Markup.Subset
import PsetCompiler.Text.Encoding

/-!
# Tokens of marked-up documents

## Main definitions

* `Token` — the tokens.
* `readToken` — the reader of one token.
* `tokens` — the tokens of a text, as far as it can be read.
-/

namespace PsetCompiler.Markup

/-- A token. -/
inductive Token where
  /-- A tag that begins an element; an empty element is also ended by it. -/
  | start (name : String) (attributes : List (String × List Piece)) (isEmpty : Bool)
  | finish (name : String)
  /-- Characters that stand for themselves. -/
  | chars (text : List Char)
  /-- Characters that are written in another way. -/
  | written (text : List Char)
  | entity (name : String)
  | instruction (target : String) (text : List Char)
  | comment (text : List Char)
  | doctype (declarations : Doctype)
deriving Repr

/-- An attribute: its name and its value, which has fewer characters than the bound. -/
def readAttribute (bound : Nat) : Reader (String × List Piece) := do
  let name ← readName
  skipSpace
  expect "="
  skipSpace
  return (name, ← readQuotedValue bound)

/-- The attributes of a tag up to its end, and whether the tag also ends its element. -/
def readAttributes (bound : Nat) : (fuel : Nat) → Reader (List (String × List Piece) × Bool)
  | 0 => failure
  | fuel + 1 => do
    let spaced := isSpace (← peek)
    skipSpace
    let c ← peek
    if c = '>' then
      expect ">"
      return ([], false)
    else if c = '/' then
      expect "/>"
      return ([], true)
    else if spaced then
      let first ← readAttribute bound
      let (others, isEmpty) ← readAttributes bound fuel
      return (first :: others, isEmpty)
    else failure

/-- A run of characters up to the next mark of a tag or a reference. The end of a section must not
stand there. -/
def cutChars? : List Char → Option (List Char × List Char)
  | [] => some ([], [])
  | c :: rest =>
    if c = '<' ∨ c = '&' then some ([], c :: rest)
    else if !isReadable c ∨ "]]>".toList.isPrefixOf (c :: rest) then none
    else do
      let (before, after) ← cutChars? rest
      return (c :: before, after)

/-- A token that begins with the mark of a tag. The text has at most as many characters as the bound
says. -/
def readMarked (standsAlone : Bool) (bound : Nat) : Reader Token := do
  let here ← get
  let starts (word : String) : Bool := word.toList.isPrefixOf here
  if starts "</" then
    expect "</"
    let name ← readName
    skipSpace
    expect ">"
    return .finish name
  else if starts "<!--" then
    expect "<!--"
    return .comment (← readComment)
  else if starts "<![CDATA[" then
    expect "<![CDATA["
    return .written (Text.unifyLineEnds (← readThrough "]]>"))
  else if starts "<!DOCTYPE" then
    expect "<!DOCTYPE"
    return .doctype (← readDoctype standsAlone)
  else if starts "<?" then
    expect "<?"
    let (target, text) ← readInstruction
    return .instruction target text
  else
    expect "<"
    let name ← readName
    let (attributes, isEmpty) ← readAttributes bound bound
    return .start name attributes isEmpty

/-- One token of a text with at most as many characters as the bound says. A line feed stands for
every line end of a text. -/
def readToken (standsAlone : Bool) (bound : Nat) : Reader Token := do
  let c ← peek
  if c = '<' then readMarked standsAlone bound
  else if c = '&' then
    expect "&"
    match ← readReference with
    | .char c => return .written [c]
    | .entity name => return .entity name
  else
    let (text, rest) ← liftM (cutChars? (← get))
    set rest
    return .chars (Text.unifyLineEnds text)

/-- The tokens of a text up to its end or to what can not be read, and whether that is all of it.
Every token takes a character, so the length of the text bounds their number. -/
def tokensWithin (standsAlone : Bool) : (fuel : Nat) → List Char → List Token × Bool
  | _, [] => ([], true)
  | 0, _ :: _ => ([], false)
  | fuel + 1, c :: cs =>
    match (readToken standsAlone (fuel + 1)).run (c :: cs) with
    | none => ([], false)
    | some (token, rest) =>
      let (tokens, complete) := tokensWithin standsAlone fuel rest
      (token :: tokens, complete)

/-- The tokens of a text up to its end or to what can not be read, and whether that is all of it. -/
def tokens (standsAlone : Bool) (cs : List Char) : List Token × Bool :=
  tokensWithin standsAlone cs.length cs

end PsetCompiler.Markup
