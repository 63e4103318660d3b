import PsetCompiler.Digest.Sha1
import PsetCompiler.Text.Digit
import PsetCompiler.Text.Quoted
import PsetCompiler.Text.Split
import PsetCompiler.Text.Utf8

/-!
# Identifiers

A parameter is identified by 128 bits, written as 32 small hexadecimal digits in groups of eight,
four, four, four and twelve. Reading is generous: it passes over `urn:`, `uuid:`, hyphens and
braces, and takes the digits as a whole number in base sixteen.

## Main definitions

* `Guid`, `Guid.text` — an identifier and its written form.
* `Guid.read` — the identifier that a text spells, or why it spells none.
* `Guid.derive` — the identifier derived from another one and a name.
-/

namespace PsetCompiler

/-- An identifier of 128 bits. -/
structure Guid where
  bits : BitVec 128
deriving DecidableEq, Repr

/-- Why a text spells no identifier. -/
inductive GuidError where
  /-- There are not exactly 32 characters left to read as digits. -/
  | length
  /-- The 32 characters are no number in base sixteen. -/
  | digits (characters : String)
deriving DecidableEq, Repr

namespace Guid

/-- The identifier whose bits spell a number. -/
def ofNat (n : Nat) : Guid := ⟨BitVec.ofNat 128 n⟩

/-- The 32 digits in the groups of the written form. -/
def grouped (digits : List Char) : List Char :=
  digits.take 8 ++ '-' :: (digits.drop 8).take 4 ++ '-' :: (digits.drop 12).take 4 ++
    '-' :: (digits.drop 16).take 4 ++ '-' :: digits.drop 20

/-- The written form of an identifier. -/
def text (guid : Guid) : String :=
  String.ofList (grouped (Text.hexDigits 32 guid.bits.toNat))

/-- The characters of a text that are read as digits. -/
def digitsOf (s : String) : List Char :=
  let bare := Text.replaceAll "uuid:" "" (Text.replaceAll "urn:" "" s)
  (Text.trimBy (fun c => c = '\x7b' ∨ c = '\x7d') bare.toList).filter (· != '-')

/-- The identifier that a text spells. -/
def read (s : String) : Except GuidError Guid :=
  let digits := digitsOf s
  if digits.length = 32 then
    match Text.readInteger 16 (String.ofList digits) with
    | some n => .ok (ofNat n.toNat)
    | none => .error (.digits (String.ofList digits))
  else
    .error .length

/-- The identifier that a text spells, if it spells one. -/
def read? (s : String) : Option Guid :=
  (read s).toOption

/-- The octets of an identifier. -/
def bytes (guid : Guid) : Text.Bytes :=
  Digest.octets 16 guid.bits.toNat

/-- The identifier derived from a name inside the space of another identifier: the first sixteen
octets of the digest of both, marked as version five. -/
def derive (space : Guid) (name : String) : Guid :=
  let digest := Digest.sha1 (space.bytes ++ Text.encodeUtf8 name.toList)
  let bits := BitVec.ofNat 128 (Digest.octetsValue (digest.take 16))
  let unmarked := bits &&& ~~~(0xC000#128 <<< 48) &&& ~~~(0xF000#128 <<< 64)
  ⟨unmarked ||| (0x8000#128 <<< 48) ||| (5#128 <<< 76)⟩

end Guid

/-- What is wrong with a text that spells no identifier; at most 200 characters of the quoted text
are shown. -/
def GuidError.message : GuidError → String
  | .length => "badly formed hexadecimal UUID string"
  | .digits characters =>
    "invalid literal for int() with base 16: " ++
      String.ofList ((Text.quoted characters).toList.take 200)

end PsetCompiler
