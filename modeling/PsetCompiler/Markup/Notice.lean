/-!
# Notices

A reader of a document notices things that do not stop it: something unusual, something that is not
allowed, octets without a meaning. The last of them decides about a document that has been read to
its end, so a blemish is forgiven when a remark follows it.

## Main definitions

* `Notice` — what is noticed of a document.
* `Verdict`, `verdict` — what becomes of a document because of what was noticed.
-/

namespace PsetCompiler.Markup

/-- What is noticed of a document that can be read on. -/
inductive Notice where
  /-- Something that is unusual and allowed. -/
  | remark
  /-- Something that is not allowed. -/
  | blemish
  /-- Octets that have no meaning in the encoding of the document. -/
  | loss
deriving DecidableEq, Repr

/-- What becomes of a document that has been read to its end. -/
inductive Verdict where
  | accepted
  | malformed
  | unreadable
deriving DecidableEq, Repr

/-- The last notice decides. A document with losses is never accepted. -/
def verdict (lossy : Bool) (last : Option Notice) : Verdict :=
  if lossy then
    if last = some .loss then .unreadable else .malformed
  else if last = some .blemish then .malformed
  else .accepted

end PsetCompiler.Markup
