import PsetCompiler.Text.Digit

/-!
# Whole numbers spelled in a field

A field that asks for a whole number also takes a text that spells one. The spelling is that of a
number without decoration (`plainNumber?`): a minus sign or none, and a lone zero or digits that do
not start with one. Around it some decoration is passed over (`undecorated`): a plus sign, a
fraction of nothing but zeros, zeros in front and single underscores inside. Zeros in front go
together with the underscores among them, and they may stand before a minus sign as well; behind a
minus sign they do not go.

## Main definitions

* `plainNumber?` — the number that a text without decoration spells.
* `undecorated` — a text without its decoration.
* `Spelling`, `spelling` — what a text amounts to as a number.
-/

namespace PsetCompiler.Text

/-- The longest spelling of a whole number that is read, in characters. -/
def longestNumber : Nat :=
  4300

/-- The number that a lone zero, or digits that do not start with one, spell. -/
def plainMagnitude? : List Char → Option Nat
  | [] => none
  | ['0'] => some 0
  | '0' :: _ => none
  | digits => if digits.all isAsciiDigit then some (decimalValue digits) else none

/-- The number that a text without decoration spells. -/
def plainNumber? : List Char → Option Int
  | '-' :: digits => (plainMagnitude? digits).map fun n => -Int.ofNat n
  | digits => (plainMagnitude? digits).map Int.ofNat

/-- The text behind a plus sign, unless a minus sign follows it. -/
def dropPlus : List Char → List Char
  | '+' :: '-' :: rest => '+' :: '-' :: rest
  | '+' :: rest => rest
  | cs => cs

/-- The text without a fraction of nothing but zeros, at least one. -/
def dropZeroFraction (cs : List Char) : List Char :=
  let (whole, fraction) := cs.span (· ≠ '.')
  match fraction with
  | _ :: zero :: zeros => if (zero :: zeros).all (· = '0') then whole else cs
  | _ => cs

/-- The text without zeros in front, and without underscores among them; of a text of nothing else
its last character is left. -/
def dropLeadingZeros : List Char → List Char
  | '0' :: rest =>
    match rest.dropWhile fun c => c = '0' ∨ c = '_' with
    | [] => [rest.getLastD '0']
    | rest => rest
  | cs => cs

/-- No underscore is the first of a text, or the last, or beside another; `inner` tells that the
character before is none. -/
def hasInnerUnderscores : (inner : Bool) → List Char → Bool
  | inner, [] => inner
  | inner, '_' :: rest => inner && hasInnerUnderscores false rest
  | _, _ :: rest => hasInnerUnderscores true rest

/-- The text without underscores, if they are single and inside. -/
def dropUnderscores (cs : List Char) : List Char :=
  if hasInnerUnderscores false cs then cs.filter (· ≠ '_') else cs

/-- A text without the decoration of a number. -/
def undecorated (cs : List Char) : List Char :=
  dropUnderscores (dropLeadingZeros (dropZeroFraction (dropPlus cs)))

/-- The number of characters of the plain number that a text starts with. -/
def plainLength : List Char → Nat
  | '-' :: digits => plainLength.count 1 digits
  | digits => plainLength.count 0 digits
where
  /-- The digits at the start of a text that does not start with a zero, counted on. -/
  count (sign : Nat) : List Char → Nat
    | '0' :: _ => sign
    | digits => sign + (digits.takeWhile isAsciiDigit).length

/-- What a text amounts to as a whole number. -/
inductive Spelling where
  | number (n : Int)
  | tooLong
  | none
deriving DecidableEq, Repr

/-- What a text amounts to as a whole number; white space around it does not count. -/
def spelling (s : String) : Spelling :=
  let cs := trimBy isNumberBlank s.toList
  if longestNumber < plainLength cs then .tooLong
  else
    let plain := undecorated cs
    match if longestNumber < plainLength plain then none else plainNumber? plain with
    | some n => .number n
    | none => .none

end PsetCompiler.Text
