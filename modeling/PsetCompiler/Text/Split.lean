/-!
# Parts of a text

Searching, cutting and replacing on texts, always over whole characters.

## Main definitions

* `startsWith`, `endsWith`, `occursIn` — where one text sits inside another.
* `splitBy` — the parts between the separators of a class; there is always at least one part.
* `replaceAll` — every occurrence replaced, found from the left and never overlapping.
-/

namespace PsetCompiler.Text

/-- The text begins with `start`. -/
def startsWith (start s : String) : Bool :=
  start.toList.isPrefixOf s.toList

/-- The text ends with `tail`. -/
def endsWith (tail s : String) : Bool :=
  tail.toList.isSuffixOf s.toList

/-- `needle` occurs somewhere in the text. -/
def occursIn (needle : List Char) : List Char → Bool
  | [] => needle.isEmpty
  | c :: rest => needle.isPrefixOf (c :: rest) || occursIn needle rest

/-- The parts of a text between separators, in order; without a separator it is one part. -/
def splitBy (isSeparator : Char → Bool) : List Char → List (List Char)
  | [] => [[]]
  | c :: rest =>
    if isSeparator c then
      [] :: splitBy isSeparator rest
    else
      match splitBy isSeparator rest with
      | [] => [[c]]
      | part :: parts => (c :: part) :: parts

/-- Replacement with `skip` characters of the last occurrence still to pass over. -/
def replaceFrom (old new : List Char) : Nat → List Char → List Char
  | _, [] => []
  | skip + 1, _ :: rest => replaceFrom old new skip rest
  | 0, c :: rest =>
    if old.isPrefixOf (c :: rest) then
      new ++ replaceFrom old new (old.length - 1) rest
    else
      c :: replaceFrom old new 0 rest

/-- Every occurrence of the non-empty text `old` replaced by `new`, from the left. -/
def replaceAll (old new s : String) : String :=
  String.ofList (replaceFrom old.toList new.toList 0 s.toList)

/-- The parts of a text between the characters of a class. -/
def split (isSeparator : Char → Bool) (s : String) : List String :=
  (splitBy isSeparator s.toList).map String.ofList

end PsetCompiler.Text
