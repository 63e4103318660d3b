import PsetCompiler.Failure
import PsetCompiler.Markup.Tree
import PsetCompiler.Text.Encoding

/-!
# Marked-up documents

A document is a sequence of octets. A byte order mark or the declaration at its start tells how its
text is encoded; without either it is UTF-8.

## Main definitions

* `Declaration`, `readDeclaration` — the declaration at the start of a document.
* `decodeDocument?` — the text of a document, as far as it can be decoded.
* `parseDocument` — the element of a document, or why there is none.
-/

namespace PsetCompiler.Markup

open Text (Bytes ByteOrder)

/-- What a document declares of itself. -/
structure Declaration where
  encoding : Option String := none
  standsAlone : Bool := false
deriving DecidableEq, Repr

/-- A quoted value behind a word and an equals sign. -/
def readSetting (word : String) : Reader String := do
  expect word
  skipSpace
  expect "="
  skipSpace
  return String.ofList (← readQuoted)

/-- A version that can be read: the first one, with any digits behind the point. -/
def isVersion (s : String) : Bool :=
  match s.toList with
  | '1' :: '.' :: rest => rest.all Text.isAsciiDigit
  | _ => false

/-- The name of an encoding begins with a letter. -/
def isEncodingName (s : String) : Bool :=
  match s.toList with
  | c :: rest => c.isAlpha && rest.all fun d => d.isAlphanum || d = '.' || d = '_' || d = '-'
  | [] => false

/-- A setting that may follow. It stands behind a blank; what follows stays untouched where there is
no such setting. -/
def readOptional (word : String) : Reader (Option String) := do
  let here ← get
  skipSpace
  if ← ahead word then
    if here.head?.any isSpace then return some (← readSetting word) else failure
  else
    set here
    return none

/-- The declaration at the start of a document, behind its mark. -/
def readDeclaration : Reader Declaration := do
  needSpace
  let version ← readSetting "version"
  if !isVersion version then failure
  let encoding ← readOptional "encoding"
  if encoding.any fun s => !isEncodingName s then failure
  let standsAlone ← readOptional "standalone"
  if standsAlone.any fun s => s ≠ "yes" ∧ s ≠ "no" then failure
  skipSpace
  expect "?>"
  return { encoding, standsAlone := standsAlone == some "yes" }

/-- The text begins with the mark of a declaration. -/
def hasDeclaration (cs : List Char) : Bool :=
  match cs with
  | '<' :: '?' :: 'x' :: 'm' :: 'l' :: c :: _ => isSpace c
  | _ => false

/-- The declaration at the start of a text and the text behind it; it need not be there. -/
def takeDeclaration? (cs : List Char) : Option (Declaration × List Char) :=
  if hasDeclaration cs then readDeclaration.run (cs.drop "<?xml".length) else some ({}, cs)

/-! ### Encodings -/

/-- How the text of a document is encoded. -/
inductive DocumentEncoding where
  | utf8
  | utf16 (order : ByteOrder)
  /-- One octet a character, with its code point. -/
  | latin
  /-- One octet a character, below 128. -/
  | ascii
deriving DecidableEq, Repr

/-- The encodings that a declaration may name, in small letters. -/
def encodingNames : List (String × DocumentEncoding) :=
  [("utf-8", .utf8), ("utf8", .utf8), ("iso-8859-1", .latin), ("iso_8859-1", .latin),
    ("iso-latin-1", .latin), ("latin1", .latin), ("us-ascii", .ascii), ("ascii", .ascii)]

/-- The text of a document as it was decoded. -/
structure Decoded where
  chars : List Char := []
  /-- The text ends at octets that have no meaning. -/
  isCut : Bool := false

/-- One more character in front. A character that no document may hold is not taken for a loss. -/
def Decoded.cons (c : Char) (decoded : Decoded) : Decoded :=
  { decoded with chars := (if c = lostChar then '\ufffe' else c) :: decoded.chars }

/-- The characters of octets up to the first that has no meaning. -/
def decodeUpTo {σ : Type} (step : σ → UInt8 → Option (Option Char × σ)) (complete : σ → Bool) :
    σ → Bytes → Decoded
  | state, [] => { isCut := !complete state }
  | state, octet :: rest =>
    match step state octet with
    | none => { isCut := true }
    | some (none, after) => decodeUpTo step complete after rest
    | some (some c, after) => (decodeUpTo step complete after rest).cons c

/-- One octet of a document in UTF-8, where a surrogate is refused at its second octet. -/
def utf8Step (state : Text.Utf8.State) (octet : UInt8) : Option (Option Char × Text.Utf8.State) :=
  (Text.Utf8.step state octet).filter fun after => after.2 ≠ .surrogate

/-- The characters of octets in UTF-8, with a mark for those that have no meaning. An octet that
ends a character too early is the first of another one. -/
def decodeAll : Text.Utf8.State → Bytes → Decoded
  | .between, [] => {}
  | _, [] => { chars := [lostChar] }
  | state, octet :: rest =>
    match utf8Step state octet with
    | some (none, after) => decodeAll after rest
    | some (some c, after) => (decodeAll after rest).cons c
    | none =>
      let restarted := if state = .between then none else utf8Step .between octet
      let (start, after) := restarted.getD (none, .between)
      let decoded := decodeAll after rest
      { decoded with chars := lostChar :: (start.toList ++ decoded.chars) }

/-- The character of an octet whose code point it is. -/
def octetChar (octet : UInt8) : Char :=
  Char.ofNat octet.toNat

/-- The text of octets in an encoding. -/
def DocumentEncoding.decode (encoding : DocumentEncoding) (bytes : Bytes) : Decoded :=
  match encoding with
  | .utf8 => decodeAll .between bytes
  | .utf16 order => decodeUpTo (Text.Utf16.step order) (· == {}) {} bytes
  | .latin => { chars := bytes.map octetChar }
  | .ascii =>
    { chars := (bytes.takeWhile (· < 128)).map octetChar, isCut := !bytes.all (· < 128) }

/-- The encoding that a document declares, if it declares one that is known. A declaration that
cannot be read is met again when the text is. -/
def declaredEncoding? (bytes : Bytes) : Option DocumentEncoding :=
  match takeDeclaration? (bytes.map octetChar) with
  | some ({ encoding := some name, .. }, _) => encodingNames.lookup (Text.asciiLower name)
  | _ => some .utf8

/-- The encoding of a document; a mark at its start counts more than what it declares. -/
def documentEncoding? (bytes : Bytes) : Option DocumentEncoding :=
  match Text.Encoding.detect bytes with
  | .utf8Marked => some .utf8
  | .utf16 order => some (.utf16 order)
  | .utf8 =>
    match bytes with
    | 0x3C :: 0x00 :: 0x3F :: 0x00 :: _ => some (.utf16 .little)
    | 0x00 :: 0x3C :: 0x00 :: 0x3F :: _ => some (.utf16 .big)
    | _ => declaredEncoding? bytes

/-- The text of a document, without a mark at its start. -/
def decodeDocument? (bytes : Bytes) : Option Decoded :=
  (documentEncoding? bytes).map fun encoding =>
    let decoded := encoding.decode bytes
    { decoded with chars := Text.dropMark decoded.chars }

/-! ### Documents -/

/-- The element of the text behind the declaration. -/
def readBody (declaration : Declaration) (cs : List Char) : Building Element :=
  let (found, complete) := tokens declaration.standsAlone cs
  rootElement declaration.standsAlone found complete

/-- The element of a text. A declaration that cannot be read is passed over when characters of it
were lost, as is the whole document in the end. -/
def readText (decoded : Decoded) : Building Element := do
  if decoded.isCut then noteLoss [lostChar]
  match takeDeclaration? decoded.chars with
  | some (declaration, rest) => readBody declaration rest
  | none =>
    let (broken, rest) := decoded.chars.span (· != '>')
    if !broken.contains lostChar then failure
    noteLoss broken
    readBody {} (rest.drop 1)

/-- The element of a document. -/
def parseDocument (bytes : Bytes) : Except Failure Element :=
  match (decodeDocument? bytes).bind fun decoded => (readText decoded).run {} with
  | none => .error .malformedMarkup
  | some (root, progress) =>
    match verdict progress.lossy progress.last with
    | .accepted => .ok root
    | .malformed => .error .malformedMarkup
    | .unreadable => .error .unreadableMarkup

end PsetCompiler.Markup
