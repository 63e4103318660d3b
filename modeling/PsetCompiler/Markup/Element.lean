import PsetCompiler.Failure
import PsetCompiler.Text.Blank

/-!
# Elements of marked-up documents

An element has a name, attributes and content. Elements are found by the local part of their names,
whatever their namespaces are, and attributes by names without a namespace. An element whose name
keeps a colon has no local part; a search that meets one ends there.

## Main definitions

* `Node`, `Element` — the parts of content, and elements.
* `Found` — what a search finds before it ends.
* `Element.children`, `Element.descendants` — the elements of a name inside an element.
* `Element.text?` — the characters before the first part that is none.
* `Element.childText?` — the text of a child without white space at its ends.
-/

namespace PsetCompiler.Markup

/-- A part of the content of an element; `α` is the type of elements. -/
inductive Node (α : Type) where
  | element (value : α)
  | chars (text : String)
  /-- An instruction, or a reference to an entity, which stays one. -/
  | opaqueMark

/-- An element. -/
structure Element where
  /-- The namespace of its name. -/
  space : Option String := none
  /-- The local part of its name, or the whole name if that is not taken apart. -/
  name : String
  /-- The attributes whose names have no namespace. -/
  attributes : List (String × String) := []
  /-- The attributes that need not be written, with their values. -/
  unwritten : List (String × String) := []
  content : List (Node Element) := []

/-- The element that a part of content is. -/
def Node.element? {α : Type} : Node α → Option α
  | .element e => some e
  | _ => none

/-! ### Searches -/

/-- What a search finds, in order, and why it ended early if it did. -/
structure Found (α : Type) where
  values : List α := []
  failure : Option Failure := none

namespace Found

variable {α β : Type}

/-- What one search finds and then another, unless the first ends early. -/
def append (first second : Found α) : Found α :=
  if first.failure.isSome then first
  else { second with values := first.values ++ second.values }

/-- What is found from each of some values in turn. -/
def ofEach (f : α → Found β) : List α → Found β
  | [] => {}
  | a :: rest => (f a).append (ofEach f rest)

/-- The outcome of a computation as a search, which ends early if the computation fails. -/
def ofExcept : Except Failure (Option α) → Found α
  | .ok a => { values := a.toList }
  | .error failure => { failure := some failure }

/-- What a computation gives for the values that are found in turn. -/
def filterMapM (found : Found α) (f : α → Except Failure (Option β)) : Found β :=
  (ofEach (fun a => ofExcept (f a)) found.values).append { failure := found.failure }

/-- All values, unless the search ends early. -/
def all (found : Found α) : Except Failure (List α) :=
  match found.failure with
  | none => .ok found.values
  | some failure => .error failure

/-- The first value. A search that ends early may still have found it. -/
def first? (found : Found α) : Except Failure (Option α) :=
  match found.values, found.failure with
  | a :: _, _ => .ok (some a)
  | [], none => .ok none
  | [], some failure => .error failure

end Found

namespace Element

/-- The local part of the name. -/
def localName (e : Element) : Except Failure String :=
  if e.name.toList.contains ':' then .error (.invalidName e.name) else .ok e.name

/-- The value of an attribute, be it written or not. -/
def attribute? (e : Element) (key : String) : Option String :=
  (e.attributes.lookup key).or (e.unwritten.lookup key)

/-- The value of an attribute, unless it is empty. -/
def filledAttribute? (e : Element) (key : String) : Option String :=
  (e.attribute? key).filter (· ≠ "")

/-! ### Elements inside -/

/-- The elements of the content. -/
def elements (e : Element) : List Element :=
  e.content.filterMap Node.element?

/-- The first element of the content. -/
def firstElement? (e : Element) : Option Element :=
  e.elements.head?

/-- The elements of a name among some elements. -/
def named (name : String) : List Element → Found Element
  | [] => {}
  | e :: rest =>
    match e.localName with
    | .error failure => { failure := some failure }
    | .ok own =>
      let found := named name rest
      if own = name then { found with values := e :: found.values } else found

/-- The children of a name. -/
def children (e : Element) (name : String) : Found Element :=
  named name e.elements

/-- The first child of a name. -/
def child? (e : Element) (name : String) : Except Failure (Option Element) :=
  (e.children name).first?

mutual

/-- The elements at any depth inside an element, in document order. -/
def inside : Element → List Element
  | ⟨_, _, _, _, content⟩ => insideAll content

/-- The elements at any depth inside parts of content. -/
def insideAll : List (Node Element) → List Element
  | [] => []
  | .element e :: rest => e :: e.inside ++ insideAll rest
  | .chars _ :: rest => insideAll rest
  | .opaqueMark :: rest => insideAll rest

end

/-- The elements of a name at any depth inside an element. -/
def descendants (e : Element) (name : String) : Found Element :=
  named name e.inside

/-- The first element of a name at any depth inside an element. -/
def descendant? (e : Element) (name : String) : Except Failure (Option Element) :=
  (e.descendants name).first?

/-! ### Text -/

/-- The characters with which content begins, if it begins with any. -/
def leadingText? : List (Node Element) → Option String
  | .chars text :: rest => some (text ++ (leadingText? rest).getD "")
  | _ => none

/-- The characters before the first part of the content that is none. -/
def text? (e : Element) : Option String :=
  leadingText? e.content

/-- The text of an element without white space at its ends, if anything is left. -/
def trimmedText? (e : Element) : Option String :=
  (e.text?.map Text.strip).filter (· ≠ "")

/-- The text of the first child of a name without white space at its ends, if anything is left. -/
def childText? (e : Element) (name : String) : Except Failure (Option String) :=
  return (← e.child? name).bind trimmedText?

/-! ### Parts are smaller -/

theorem sizeOf_elements_of_content (content : List (Node Element)) :
    sizeOf (content.filterMap Node.element?) ≤ sizeOf content := by
  induction content with
  | nil => simp
  | cons node rest ih =>
    rw [List.filterMap_cons]
    cases node with
    | element e => simp [Node.element?]; omega
    | chars text => simp [Node.element?]; omega
    | opaqueMark => simp [Node.element?]; omega

theorem sizeOf_elements (e : Element) : sizeOf e.elements < sizeOf e := by
  have := sizeOf_elements_of_content e.content
  cases e
  simp [elements] at this ⊢
  omega

theorem sizeOf_named (name : String) (l : List Element) :
    sizeOf (named name l).values ≤ sizeOf l := by
  induction l with
  | nil => simp [named]
  | cons e l ih =>
    rw [named]
    split
    · simp
      omega
    · dsimp only
      split <;> simp <;> omega

theorem sizeOf_children (e : Element) (name : String) :
    sizeOf (e.children name).values < sizeOf e :=
  Nat.lt_of_le_of_lt (sizeOf_named _ _) e.sizeOf_elements

theorem sizeOf_head?_lt {α : Type} [SizeOf α] {l : List α} {a : α} (h : l.head? = some a) :
    sizeOf a < sizeOf l := by
  cases l with
  | nil => simp at h
  | cons b l =>
    simp at h
    subst h
    simp
    omega

theorem head?_of_first? {α : Type} {found : Found α} {a : α} (h : found.first? = .ok (some a)) :
    found.values.head? = some a := by
  unfold Found.first? at h
  split at h <;> simp_all

theorem sizeOf_child? {e child : Element} {name : String} (h : e.child? name = .ok (some child)) :
    sizeOf child < sizeOf e :=
  Nat.lt_trans (sizeOf_head?_lt (head?_of_first? h)) (e.sizeOf_children name)

theorem sizeOf_firstElement? {e child : Element} (h : e.firstElement? = some child) :
    sizeOf child < sizeOf e :=
  Nat.lt_trans (sizeOf_head?_lt h) e.sizeOf_elements

end Element

/-- The part of a name behind the last colon. -/
def localPart (name : String) : String :=
  String.ofList (name.toList.reverse.takeWhile (· != ':')).reverse

end PsetCompiler.Markup
