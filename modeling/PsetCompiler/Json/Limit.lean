import PsetCompiler.Json

/-!
# Limits of a JSON text

A text that spells a record is read within limits: lists and objects that hold something lie in one
another no deeper than `deepest`, and no number has more digits before its point than
`longestWhole` characters hold, the sign counted. A text beyond them is no JSON text at all.

## Main definitions

* `Json.fits` — a value is within the limits, some levels being left.
* `Json.isWithinLimits` — a whole value is.
-/

namespace PsetCompiler.Json

/-- The levels to which lists and objects that hold something may lie in one another. -/
def deepest : Nat :=
  200

/-- The characters that a number may take before its point, with its sign. -/
def longestWhole : Nat :=
  4300

/-- A whole number takes no more characters than it may. -/
def wholeFits (n : Int) : Bool :=
  -(Nat.pow 10 (longestWhole - 1) : Int) < n ∧ n < Nat.pow 10 longestWhole

/-- A decimal takes no more characters before its point than it may. -/
def Decimal.fits (d : Decimal) : Bool :=
  (d.text.toList.takeWhile fun c => c ≠ '.' ∧ c ≠ 'e' ∧ c ≠ 'E').length ≤ longestWhole

mutual

/-- A value is within the limits when it lies so deep that some levels are left. -/
def fits : (levels : Nat) → Json → Bool
  | levels, .arr items => itemsFit levels items
  | levels, .obj members => membersFit levels members
  | _, .int n => wholeFits n
  | _, .decimal d => Decimal.fits d
  | _, _ => true

/-- The items of a list at some level are within the limits. -/
def itemsFit : (levels : Nat) → List Json → Bool
  | _, [] => true
  | 0, _ :: _ => false
  | levels + 1, item :: rest => item.fits levels && itemsFit (levels + 1) rest

/-- The members of an object at some level are within the limits. -/
def membersFit : (levels : Nat) → List (String × Json) → Bool
  | _, [] => true
  | 0, _ :: _ => false
  | levels + 1, (_, value) :: rest => value.fits levels && membersFit (levels + 1) rest

end

/-- A value is within the limits. -/
def isWithinLimits (value : Json) : Bool :=
  value.fits deepest

end PsetCompiler.Json
