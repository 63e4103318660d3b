import PsetCompiler.Markup.Element

/-!
# Elements without their namespaces

Nothing that is asked of an element tells the namespace of its name, or that of an element inside
it.  Taking the namespaces away from an element and from all elements inside it changes no name, no
attribute and no text, and a search in what is left finds what it finds in the whole, in the same
order, without namespaces too.

## Main definitions

* `Element.unspaced` — an element without its namespaces.
* `Found.map` — what a search finds, each value changed.

## Main results

* `Element.children_unspaced`, `Element.descendants_unspaced` — **searches do not tell namespaces.**
* `Element.text?_unspaced`, `Element.childText?_unspaced` — neither do texts.
-/

namespace PsetCompiler.Markup

/-! ### Searches with changed values -/

namespace Found

variable {α β γ : Type}

/-- What a search finds, each value changed. -/
def map (f : α → β) (found : Found α) : Found β :=
  { values := found.values.map f, failure := found.failure }

theorem map_append (f : α → β) (first second : Found α) :
    (first.append second).map f = (first.map f).append (second.map f) := by
  unfold append
  by_cases h : first.failure.isSome
  · rw [if_pos h, if_pos (show (first.map f).failure.isSome from h)]
  · rw [if_neg h, if_neg (show ¬(first.map f).failure.isSome from h), map, List.map_append]
    rfl

theorem map_ofEach (f : β → γ) (g : α → Found β) (l : List α) :
    (ofEach g l).map f = ofEach (fun a => (g a).map f) l := by
  induction l with
  | nil => rfl
  | cons a l ih => rw [ofEach, map_append, ih, ofEach]

theorem ofEach_map (f : α → β) (g : β → Found γ) (l : List α) :
    ofEach g (l.map f) = ofEach (fun a => g (f a)) l := by
  induction l with
  | nil => rfl
  | cons a l ih => rw [List.map_cons, ofEach, ih, ofEach]

theorem filterMapM_map (f : α → β) (found : Found α) (g : β → Except Failure (Option γ)) :
    (found.map f).filterMapM g = found.filterMapM fun a => g (f a) := by
  rw [filterMapM, map, ofEach_map, filterMapM]

theorem all_map (f : α → β) (found : Found α) :
    (found.map f).all = found.all.map (List.map f) := by
  obtain ⟨values, failure⟩ := found
  cases failure <;> rfl

theorem first?_map (f : α → β) (found : Found α) :
    (found.map f).first? = found.first?.map (Option.map f) := by
  obtain ⟨values, failure⟩ := found
  cases values <;> cases failure <;> rfl

end Found

namespace Element

/-! ### Taking namespaces away -/

mutual

/-- An element without its namespace, nor those of the elements inside it. -/
def unspaced : Element → Element
  | ⟨_, name, attributes, unwritten, content⟩ =>
    { name, attributes, unwritten, content := unspacedAll content }

/-- Parts of content without namespaces. -/
def unspacedAll : List (Node Element) → List (Node Element)
  | [] => []
  | .element e :: rest => .element e.unspaced :: unspacedAll rest
  | .chars text :: rest => .chars text :: unspacedAll rest
  | .opaqueMark :: rest => .opaqueMark :: unspacedAll rest

end

theorem name_unspaced (e : Element) : e.unspaced.name = e.name := by
  cases e
  rw [unspaced]

theorem content_unspaced (e : Element) : e.unspaced.content = unspacedAll e.content := by
  cases e
  rw [unspaced]

theorem localName_unspaced (e : Element) : e.unspaced.localName = e.localName := by
  rw [localName, name_unspaced, localName]

theorem attribute?_unspaced (e : Element) (key : String) :
    e.unspaced.attribute? key = e.attribute? key := by
  cases e
  rw [unspaced, attribute?, attribute?]

theorem filledAttribute?_unspaced (e : Element) (key : String) :
    e.unspaced.filledAttribute? key = e.filledAttribute? key := by
  rw [filledAttribute?, attribute?_unspaced, filledAttribute?]

/-! ### Text -/

theorem leadingText?_unspacedAll (content : List (Node Element)) :
    leadingText? (unspacedAll content) = leadingText? content := by
  induction content with
  | nil => rfl
  | cons node rest ih =>
    cases node with
    | element e => rfl
    | chars text => rw [unspacedAll, leadingText?, ih, leadingText?]
    | opaqueMark => rfl

theorem text?_unspaced (e : Element) : e.unspaced.text? = e.text? := by
  rw [text?, content_unspaced, leadingText?_unspacedAll, text?]

theorem trimmedText?_unspaced (e : Element) : e.unspaced.trimmedText? = e.trimmedText? := by
  rw [trimmedText?, text?_unspaced, trimmedText?]

/-! ### Elements inside -/

theorem elements_unspaced (e : Element) : e.unspaced.elements = e.elements.map unspaced := by
  rw [elements, content_unspaced, elements]
  induction e.content with
  | nil => rfl
  | cons node rest ih =>
    cases node with
    | element e =>
      show e.unspaced :: (unspacedAll rest).filterMap Node.element? = _
      rw [ih]
      rfl
    | chars text => exact ih
    | opaqueMark => exact ih

theorem firstElement?_unspaced (e : Element) :
    e.unspaced.firstElement? = e.firstElement?.map unspaced := by
  rw [firstElement?, elements_unspaced, List.head?_map, firstElement?]

mutual

theorem inside_unspaced (e : Element) : e.unspaced.inside = e.inside.map unspaced := by
  obtain ⟨_, name, attributes, unwritten, content⟩ := e
  rw [unspaced, inside, inside]
  exact insideAll_unspacedAll content

theorem insideAll_unspacedAll (content : List (Node Element)) :
    insideAll (unspacedAll content) = (insideAll content).map unspaced := by
  cases content with
  | nil => rfl
  | cons node rest =>
    have hrest := insideAll_unspacedAll rest
    cases node with
    | element e =>
      rw [unspacedAll, insideAll, insideAll, inside_unspaced e, hrest, List.map_append,
        List.map_cons]
    | chars text => rw [unspacedAll, insideAll, insideAll, hrest]
    | opaqueMark => rw [unspacedAll, insideAll, insideAll, hrest]

end

/-- A search by name among elements without namespaces. -/
theorem named_map_unspaced (name : String) (l : List Element) :
    named name (l.map unspaced) = (named name l).map unspaced := by
  induction l with
  | nil => rfl
  | cons e l ih =>
    rw [List.map_cons, named, localName_unspaced, ih, named]
    split
    · rfl
    · next own _ =>
      by_cases h : own = name
      · rw [if_pos h, if_pos h]
        rfl
      · rw [if_neg h, if_neg h]

variable (e : Element) (name : String)

theorem children_unspaced : e.unspaced.children name = (e.children name).map unspaced := by
  rw [children, elements_unspaced, named_map_unspaced, children]

theorem descendants_unspaced :
    e.unspaced.descendants name = (e.descendants name).map unspaced := by
  rw [descendants, inside_unspaced, named_map_unspaced, descendants]

theorem child?_unspaced :
    e.unspaced.child? name = (e.child? name).map (Option.map unspaced) := by
  rw [child?, children_unspaced, Found.first?_map, child?]

theorem descendant?_unspaced :
    e.unspaced.descendant? name = (e.descendant? name).map (Option.map unspaced) := by
  rw [descendant?, descendants_unspaced, Found.first?_map, descendant?]

theorem childText?_unspaced : e.unspaced.childText? name = e.childText? name := by
  rw [childText?, child?_unspaced, childText?]
  cases e.child? name with
  | error failure => rfl
  | ok child =>
    cases child with
    | none => rfl
    | some child => exact congrArg Except.ok child.trimmedText?_unspaced

end Element

end PsetCompiler.Markup
