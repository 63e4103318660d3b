/-!
# Texts in order

Texts are ordered by code point: the first character in which they differ decides, and a text comes
before those that it begins.

## Main definitions

* `precedes` — the order of texts.
* `sortBy`, `sortTexts` — a stable sort by a text.
* `distinctSorted` — the distinct texts of a list in order.
-/

namespace PsetCompiler.Text

/-- One text is not after another. -/
def precedes (s t : String) : Bool :=
  !decide (t < s)

/-- A list sorted by a text of each item; items with one text keep their order. -/
def sortBy {α : Type} (key : α → String) (items : List α) : List α :=
  items.mergeSort fun a b => precedes (key a) (key b)

/-- Texts in order. -/
def sortTexts (items : List String) : List String :=
  sortBy id items

/-- The distinct texts of a list, in order. -/
def distinctSorted (items : List String) : List String :=
  sortTexts items.eraseDups

end PsetCompiler.Text
