import PsetCompiler.Text.Letter.Fold
import PsetCompiler.Text.Letter.Upper

/-!
# Letters without their case

Names are compared by their case folding, and versions and values are brought to capitals.

## Main definitions

* `foldCase` — the case folding of a text; `ß` folds to `ss`.
* `upper` — the capital form of a text; `ß` becomes `SS`.
* `asciiLower` — the text with the capitals of ASCII made small.
* `sameFolded` — two texts with one case folding.
-/

namespace PsetCompiler.Text

/-- The case folding of a character. -/
def foldChar (c : Char) : List Char :=
  if c.toNat < 128 then
    if 'A' ≤ c && c ≤ 'Z' then [Char.ofNat (c.toNat + 32)] else [c]
  else
    mapLetter foldRanges foldExpansions c

/-- The capital form of a character. -/
def upperChar (c : Char) : List Char :=
  if c.toNat < 128 then
    if 'a' ≤ c && c ≤ 'z' then [Char.ofNat (c.toNat - 32)] else [c]
  else
    mapLetter upperRanges upperExpansions c

/-- The case folding of a text. -/
def foldCase (s : String) : String :=
  String.ofList (s.toList.flatMap foldChar)

/-- The capital form of a text. -/
def upper (s : String) : String :=
  String.ofList (s.toList.flatMap upperChar)

/-- The text with the capitals of ASCII made small. -/
def asciiLower (s : String) : String :=
  String.ofList (s.toList.map fun c => if 'A' ≤ c && c ≤ 'Z' then Char.ofNat (c.toNat + 32) else c)

/-- The two texts differ in case only. -/
def sameFolded (s t : String) : Bool :=
  foldCase s == foldCase t

@[simp] theorem foldCase_append (s t : String) : foldCase (s ++ t) = foldCase s ++ foldCase t := by
  simp [foldCase]

@[simp] theorem upper_append (s t : String) : upper (s ++ t) = upper s ++ upper t := by
  simp [upper]

end PsetCompiler.Text
