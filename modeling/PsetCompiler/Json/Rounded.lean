import PsetCompiler.Json

/-!
# Decimals as the nearest number of 53 bits

A decimal stands for the nearest number with 53 significant bits and an exponent that a double word
holds; of two equally near ones it is the even one.

## Main definitions

* `roundQuotient` — a quotient rounded to the nearest whole number.
* `Binary` — a number as a whole number times a power of two.
* `Decimal.nearest?` — the number that a decimal stands for, if it is finite.
* `Binary.whole?` — the whole number that it is, if it is one.
-/

namespace PsetCompiler

/-- The quotient of two numbers rounded to the nearest whole number, a tie to the even one. -/
def roundQuotient (num den : Nat) : Nat :=
  let below := num / den
  let twice := 2 * (num % den)
  if twice < den then below
  else if den < twice then below + 1
  else if below % 2 = 0 then below
  else below + 1

/-- The number `mantissa * 2 ^ exponent`. -/
structure Binary where
  mantissa : Int
  exponent : Int
deriving DecidableEq, Repr

/-- A quotient divided by a power of two and rounded. -/
def roundScaled (num den : Nat) (power : Int) : Nat :=
  if power ≥ 0 then roundQuotient num (den * Nat.pow 2 power.toNat)
  else roundQuotient (num * Nat.pow 2 (-power).toNat) den

/-- The number of 53 bits nearest to a positive quotient; `none` when it is too large for one. -/
def nearestBinary? (num den : Nat) : Option Binary :=
  let size : Int := (Nat.log2 num : Int) - Nat.log2 den
  let guess := if roundScaled num den (size - 52) < Nat.pow 2 52 then size - 53 else size - 52
  let power := max guess (-1074)
  let mantissa := roundScaled num den power
  if mantissa < Nat.pow 2 53 ∧ power ≤ 971 then some ⟨mantissa, power⟩
  else if mantissa = Nat.pow 2 53 ∧ power < 971 then some ⟨mantissa, power⟩
  else none

/-- The number of 53 bits that a decimal stands for, if it is finite. -/
def Decimal.nearest? (d : Decimal) : Option Binary := do
  let (mantissa, exponent) ← d.value
  if mantissa = 0 ∨ exponent + (Nat.log2 mantissa.natAbs : Int) < -1100 then
    return ⟨0, 0⟩
  else if 400 < exponent then
    none
  else
    let (num, den) :=
      if exponent ≥ 0 then (mantissa.natAbs * Nat.pow 10 exponent.toNat, 1)
      else (mantissa.natAbs, Nat.pow 10 (-exponent).toNat)
    let b ← nearestBinary? num den
    return { b with mantissa := if mantissa < 0 then -b.mantissa else b.mantissa }

/-- The whole number that it is, if it is one. -/
def Binary.whole? (b : Binary) : Option Int :=
  if b.exponent ≥ 0 then some (b.mantissa * Nat.pow 2 b.exponent.toNat)
  else
    let den : Int := Nat.pow 2 (-b.exponent).toNat
    if b.mantissa % den = 0 then some (b.mantissa / den) else none

end PsetCompiler
