/-!
# White space

The white space of the text formats read here: the ASCII blanks and line marks, the four
separators from U+001C on, and the blanks and line separators beyond ASCII. The zero-width space
and the byte order mark are not white space.

## Main definitions

* `isBlank` — the white space characters.
* `trimBy` — a text without the characters of a class at its two ends.
* `strip` — a text without white space at its two ends.
* `isBlankText` — a text of nothing but white space.
-/

namespace PsetCompiler.Text

/-- White space. -/
def isBlank (c : Char) : Bool :=
  let n := c.toNat
  (9 ≤ n && n ≤ 13) || (28 ≤ n && n ≤ 32) || n == 0x85 || n == 0xA0 || n == 0x1680 ||
    (0x2000 ≤ n && n ≤ 0x200A) || n == 0x2028 || n == 0x2029 || n == 0x202F || n == 0x205F ||
    n == 0x3000

/-- A text without the characters of a class at its end. -/
def trimEndBy (p : Char → Bool) (cs : List Char) : List Char :=
  (cs.reverse.dropWhile p).reverse

/-- A text without the characters of a class at its two ends. -/
def trimBy (p : Char → Bool) (cs : List Char) : List Char :=
  trimEndBy p (cs.dropWhile p)

/-- A text without white space at its two ends. -/
def strip (s : String) : String :=
  String.ofList (trimBy isBlank s.toList)

/-- A text of nothing but white space, the empty text included. -/
def isBlankText (s : String) : Bool :=
  s.toList.all isBlank

@[simp] theorem toList_strip (s : String) : (strip s).toList = trimBy isBlank s.toList := by
  simp [strip]

@[simp] theorem trimBy_nil (p : Char → Bool) : trimBy p [] = [] := rfl

end PsetCompiler.Text
