/-!
# Runs of letters

Letter mappings of the character database are regular: neighbouring letters, or every second one,
move by the same distance. A table of runs keeps one row for each such stretch.

## Main definitions

* `LetterRun` — a stretch of letters and the distance they move.
* `LetterRun.image?` — the image of a code point, when the run holds it.
* `mapLetter` — the image of a code point under a table of runs and a table of expansions.
-/

namespace PsetCompiler.Text

/-- The code points `first`, `first + step`, … up to `last`, each moved by `offset`. -/
structure LetterRun where
  first : Nat
  last : Nat
  step : Nat
  offset : Int

/-- The image of a code point of the run. -/
def LetterRun.image? (run : LetterRun) (code : Nat) : Option Nat :=
  if run.first ≤ code ∧ code ≤ run.last ∧ (code - run.first) % run.step = 0 then
    some (code + run.offset).toNat
  else
    none

/-- The image of a character: its expansion if it has one, else the image under the first run that
holds it, else the character itself. -/
def mapLetter (runs : List LetterRun) (expansions : List (Nat × List Nat)) (c : Char) : List Char :=
  match expansions.lookup c.toNat with
  | some codes => codes.map Char.ofNat
  | none =>
    match runs.findSome? (·.image? c.toNat) with
    | some code => [Char.ofNat code]
    | none => [c]

end PsetCompiler.Text
