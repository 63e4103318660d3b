import PsetCompiler.Markup.Reader

/-!
# Content models

A document type may declare what the content of an element looks like: a pattern of element names,
or text mixed with some elements. Nothing is checked against a model; it only has to be one.

## Main definitions

* `readPattern` — a pattern in brackets.
* `readMixed` — text mixed with elements.
* `readContentModel` — a content model.
-/

namespace PsetCompiler.Markup

/-- How often a part of a pattern may occur, if that is said. -/
def skipOccurrence : Reader Unit := do
  if (← get).head?.any fun c => c = '?' || c = '*' || c = '+' then
    let _ ← next

/-- A pattern behind its opening bracket, up to the closing one: parts between separators that are
all of one kind. The fuel bounds the number of brackets and parts. -/
def readPattern : (fuel : Nat) → (separator : Option Char) → Reader Unit
  | 0, _ => failure
  | fuel + 1, separator => do
    skipSpace
    if (← peek) = '(' then
      let _ ← next
      readPattern fuel none
    else
      let _ ← readName
      skipOccurrence
    skipSpace
    let c ← next
    if c = ')' then skipOccurrence
    else if (c = ',' ∨ c = '|') ∧ separator.all (· = c) then readPattern fuel (some c)
    else failure

/-- The element names that may be mixed with text, up to the closing bracket. -/
def readMixedNames : (fuel : Nat) → Reader Unit
  | 0 => failure
  | fuel + 1 => do
    skipSpace
    if ← ahead "|" then
      let _ ← next
      skipSpace
      let _ ← readName
      readMixedNames fuel
    else expect ")*"

/-- Text mixed with elements, behind the word for text. -/
def readMixed : Reader Unit := do
  skipSpace
  if ← ahead ")" then
    let _ ← next
    if ← ahead "*" then
      let _ ← next
  else readMixedNames ((← get).length + 1)

/-- A content model. -/
def readContentModel : Reader Unit := do
  if ← ahead "EMPTY" then expect "EMPTY"
  else if ← ahead "ANY" then expect "ANY"
  else
    expect "("
    skipSpace
    if ← ahead "#PCDATA" then
      expect "#PCDATA"
      readMixed
    else readPattern ((← get).length + 1) none

end PsetCompiler.Markup
