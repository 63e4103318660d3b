import PsetCompiler.Text.Blank

/-!
# Digits and whole numbers

Whole numbers as people write them: white space around, one sign, digits of any script, and single
underscores between digits. Base sixteen also takes the letters `a` to `f` and a leading `0x`.

In base ten no number is read or written that has more digits than a limit; base sixteen has no such
limit.

## Main definitions

* `decimalDigit?` — the value of a decimal digit of any script.
* `readInteger` — the whole number that a text spells in a base.
* `digitLimit`, `readNumber`, `IsWritable` — reading and writing in base ten, with the limit.
-/

namespace PsetCompiler.Text

/-- The zeros of the decimal digits; the other nine digits of a script follow its zero. -/
def digitZeros : List Nat :=
  [0x30, 0x660, 0x6F0, 0x7C0, 0x966, 0x9E6, 0xA66, 0xAE6, 0xB66, 0xBE6, 0xC66, 0xCE6, 0xD66, 0xDE6,
  0xE50, 0xED0, 0xF20, 0x1040, 0x1090, 0x17E0, 0x1810, 0x1946, 0x19D0, 0x1A80, 0x1A90, 0x1B50,
  0x1BB0, 0x1C40, 0x1C50, 0xA620, 0xA8D0, 0xA900, 0xA9D0, 0xA9F0, 0xAA50, 0xABF0, 0xFF10, 0x104A0,
  0x10D30, 0x11066, 0x110F0, 0x11136, 0x111D0, 0x112F0, 0x11450, 0x114D0, 0x11650, 0x116C0,
  0x11730, 0x118E0, 0x11950, 0x11C50, 0x11D50, 0x11DA0, 0x16A60, 0x16AC0, 0x16B50, 0x1D7CE,
  0x1D7D8, 0x1D7E2, 0x1D7EC, 0x1D7F6, 0x1E140, 0x1E2F0, 0x1E950, 0x1FBF0]

/-- The value of a decimal digit of any script. -/
def decimalDigit? (c : Char) : Option Nat :=
  if c.toNat < 128 then
    if 48 ≤ c.toNat && c.toNat ≤ 57 then some (c.toNat - 48) else none
  else
    (digitZeros.find? fun first => first ≤ c.toNat && c.toNat ≤ first + 9).map (c.toNat - ·)

/-- The value of a digit in bases up to thirty-six, where the ASCII letters follow nine. -/
def digitValue? (c : Char) : Option Nat :=
  match decimalDigit? c with
  | some value => some value
  | none =>
    if 'a' ≤ c && c ≤ 'z' then some (c.toNat - 87)
    else if 'A' ≤ c && c ≤ 'Z' then some (c.toNat - 55)
    else none

/-- The value of digits with single underscores between them, read after `value`; `afterDigit`
tells whether the last character was a digit. -/
def readDigits (base : Nat) : (afterDigit : Bool) → (value : Nat) → List Char → Option Nat
  | afterDigit, value, [] => if afterDigit then some value else none
  | afterDigit, value, c :: rest =>
    if c = '_' then
      if afterDigit then readDigits base false value rest else none
    else
      match digitValue? c with
      | some digit =>
        if digit < base then readDigits base true (value * base + digit) rest else none
      | none => none

/-- White space that may stand around a number: all but the separators from U+001C to U+001F. -/
def isNumberBlank (c : Char) : Bool :=
  isBlank c && !(28 ≤ c.toNat && c.toNat ≤ 31)

/-- The digits after a base-sixteen mark, which one underscore may follow. The zero of the mark may
be that of any script. -/
def dropHexMark : List Char → List Char
  | zero :: x :: rest =>
    if decimalDigit? zero = some 0 ∧ (x = 'x' ∨ x = 'X') then
      match rest with
      | '_' :: digits => digits
      | digits => digits
    else zero :: x :: rest
  | cs => cs

/-- The number that unsigned digits spell. -/
def readMagnitude (base : Nat) (cs : List Char) : Option Nat :=
  readDigits base false 0 (if base = 16 then dropHexMark cs else cs)

/-- The whole number that a text spells. -/
def readInteger (base : Nat) (s : String) : Option Int :=
  match trimBy isNumberBlank s.toList with
  | '+' :: rest => (readMagnitude base rest).map Int.ofNat
  | '-' :: rest => (readMagnitude base rest).map fun n => -Int.ofNat n
  | cs => (readMagnitude base cs).map Int.ofNat

/-- How many digits a number in base ten may have. -/
def digitLimit : Nat := 4300

/-- A decimal digit of any script. -/
def isDecimalDigit (c : Char) : Bool :=
  (decimalDigit? c).isSome

/-- How many decimal digits stand in a text, leading zeros among them. -/
def digitCount (s : String) : Nat :=
  s.toList.countP isDecimalDigit

/-- The whole number that a text spells in base ten, if it has not too many digits. -/
def readNumber (s : String) : Option Int :=
  if digitCount s ≤ digitLimit then readInteger 10 s else none

/-- A whole number has not too many digits to be written in base ten. -/
def IsWritable (n : Int) : Prop :=
  n.natAbs < Nat.pow 10 digitLimit

instance (n : Int) : Decidable (IsWritable n) :=
  inferInstanceAs (Decidable (_ < _))

/-- The value of a text of ASCII digits, most significant first. -/
def decimalValue (cs : List Char) : Nat :=
  cs.foldl (fun value c => value * 10 + (c.toNat - 48)) 0

/-- An ASCII decimal digit. -/
def isAsciiDigit (c : Char) : Bool :=
  48 ≤ c.toNat && c.toNat ≤ 57

end PsetCompiler.Text
