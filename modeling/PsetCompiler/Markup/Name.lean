/-!
# Characters and names of marked-up documents

A name may have a label in front of its local part, with a colon between them. A name whose colons
stand elsewhere can still be read; it is taken apart as far as that goes.

## Main definitions

* `isSpace`, `isAllowed` — the blanks of markup, and the characters a document may hold.
* `isNameStart`, `isNameInner` — the characters of names.
* `SplitName`, `splitName?` — a name taken apart.
-/

namespace PsetCompiler.Markup

/-- A blank of markup. -/
def isSpace (c : Char) : Bool :=
  c = ' ' || c = '\t' || c = '\n' || c = '\r'

/-- What stands for an octet that has no meaning. It is no character of any document. -/
def lostChar : Char := '\uffff'

/-- A character that a document may hold. -/
def isAllowed (c : Char) : Bool :=
  isSpace c || (0x20 ≤ c.toNat && c.toNat ≠ 0xFFFE && c.toNat ≠ 0xFFFF)

/-- A character that may be read where text stands, be it one that was lost. -/
def isReadable (c : Char) : Bool :=
  isAllowed c || c = lostChar

/-- The code points that may begin a name, ASCII and the colon apart, from first to last. -/
def nameStartRanges : List (Nat × Nat) :=
  [(0xC0, 0xD6), (0xD8, 0xF6), (0xF8, 0x2FF), (0x370, 0x37D), (0x37F, 0x1FFF), (0x200C, 0x200D),
    (0x2070, 0x218F), (0x2C00, 0x2FEF), (0x3001, 0xD7FF), (0xF900, 0xFDCF), (0xFDF0, 0xFFFD),
    (0x10000, 0xEFFFF)]

/-- The code points that may only stand inside a name, ASCII apart, from first to last. -/
def nameInnerRanges : List (Nat × Nat) :=
  [(0xB7, 0xB7), (0x300, 0x36F), (0x203F, 0x2040)]

/-- A character lies in one of the ranges. -/
def inRanges (ranges : List (Nat × Nat)) (c : Char) : Bool :=
  ranges.any fun range => range.1 ≤ c.toNat && c.toNat ≤ range.2

/-- A character that may begin a name; the colon is one. -/
def isNameStart (c : Char) : Bool :=
  ('a' ≤ c && c ≤ 'z') || ('A' ≤ c && c ≤ 'Z') || c = '_' || c = ':' || inRanges nameStartRanges c

/-- A character that may stand inside a name. -/
def isNameInner (c : Char) : Bool :=
  isNameStart c || ('0' ≤ c && c ≤ '9') || c = '-' || c = '.' || inRanges nameInnerRanges c

/-- The characters are a word: at least one, and all may stand inside a name. -/
def isWord (cs : List Char) : Bool :=
  !cs.isEmpty && cs.all isNameInner

/-- The characters are a name. -/
def isName (cs : List Char) : Bool :=
  isWord cs && cs.head?.any isNameStart

/-- The characters are a name without a colon. -/
def isPlainName (cs : List Char) : Bool :=
  isName cs && !cs.contains ':'

/-- The characters begin as a name without a colon does. -/
def startsPlain (cs : List Char) : Bool :=
  cs.head?.any fun c => isNameStart c && c != ':'

/-- A name taken apart. -/
structure SplitName where
  /-- What stands before the colon. -/
  label : Option String := none
  localName : String
  /-- The colons stand where they may. -/
  isSound : Bool := true
deriving DecidableEq, Repr

/-- A name taken apart at its first colon. Where no name stands before or behind that colon, the
whole is the local part; behind another colon a new name has to begin, if anything stands there. -/
def splitName? (name : String) : Option SplitName :=
  let (before, rest) := name.toList.span (· != ':')
  match rest with
  | [] => some { localName := name }
  | _ :: after =>
    if before.isEmpty || !startsPlain after then some { localName := name, isSound := false }
    else
      let isSound := !after.contains ':'
      match after.dropWhile (· != ':') with
      | _ :: c :: _ =>
        if isNameStart c then
          some { label := some (String.ofList before), localName := String.ofList after, isSound }
        else none
      | _ =>
        some { label := some (String.ofList before), localName := String.ofList after, isSound }

end PsetCompiler.Markup
