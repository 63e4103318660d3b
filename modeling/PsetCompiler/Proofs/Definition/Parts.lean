import PsetCompiler.Proofs.Definition.Header
import PsetCompiler.Proofs.Definition.Set
import PsetCompiler.Proofs.Firsts
import PsetCompiler.Proofs.Markup.Without

/-!
# The parts of a definition

The properties of a definition are read from the elements of one name inside the first child of
another name.  They are kept in the order of their elements, and of properties of one name the first
is kept.  An element without a name gives no property.

Such an element may be taken away, unless a class is named inside it, and the same definition is
read.  It is not met again by any search: the searches for the fields of the header look for other
children, and a search for classes does not find any that it has lost.  This needs that the search
for classes comes to its end, which it does where a definition is read.

## Main definitions

* `firstOfEachName` — the properties that are the first of their names.
* `SetKind.partElements` — the elements of properties.
* `SetKind.IsIdle`, `SetKind.LosesIdle` — the elements that may be taken away, and taking them away.

## Main results

* `foldl_addUnique` — adding properties one by one.
* `exists_of_readSet`, `exists_of_readParts` — the parts of a definition that is read.
* `value_readSet_of_losesIdle` — **idle elements do not matter.**
-/

namespace PsetCompiler

open Markup (Element Found Node)

/-! ### The first of every name -/

/-- The properties that are the first of their names, in order. -/
def firstOfEachName : List Property → List Property
  | [] => []
  | p :: rest => p :: (firstOfEachName rest).filter (·.name ≠ p.name)

theorem firstOfEachName_eq (l : List Property) :
    firstOfEachName l = firstOfEach (·.name) l := by
  induction l with
  | nil => rfl
  | cons p rest ih => rw [firstOfEachName, firstOfEach, ih]

theorem firstOfEachName_subset (l : List Property) : firstOfEachName l ⊆ l := by
  rw [firstOfEachName_eq]
  exact (firstOfEach_sublist _ l).subset

theorem nodup_names_firstOfEachName (l : List Property) :
    ((firstOfEachName l).map (·.name)).Nodup := by
  rw [firstOfEachName_eq]
  exact nodup_map_firstOfEach _ l

/-- Properties that are added one by one: behind those that are there come the first ones of all
names that are not taken. -/
theorem foldl_addUnique (set : String) (reads : List (Option Property)) (taken : List Property) :
    reads.foldl (fun properties p? => (addUnique set properties p?).value) taken =
      taken ++ firstsBeyond (·.name) (taken.map (·.name)) (reads.filterMap id) := by
  induction reads generalizing taken with
  | nil => exact (List.append_nil _).symm
  | cons p? reads ih =>
    rw [List.foldl_cons, ih]
    cases p? with
    | none => rfl
    | some p =>
      have hreads : (some p :: reads).filterMap id = p :: reads.filterMap id := rfl
      have hany : taken.any (·.name == p.name) = true ↔ p.name ∈ taken.map (·.name) := by
        simp
      rw [hreads]
      by_cases htaken : p.name ∈ taken.map (·.name)
      · have hvalue : (addUnique set taken (some p)).value = taken := by
          simp only [addUnique, if_pos (hany.mpr htaken)]
          rfl
        rw [hvalue, firstsBeyond_cons_of_mem htaken]
      · have hvalue : (addUnique set taken (some p)).value = taken ++ [p] := by
          simp only [addUnique, if_neg (mt hany.mp htaken)]
          rfl
        rw [hvalue, firstsBeyond_cons_of_notMem htaken, List.append_assoc, List.map_append]
        rfl

/-! ### Definitions that are read -/

/-- The parts of a definition that is read, and its reports. -/
theorem exists_of_readSet {root : Element} {file release : String} {pset : PropertySet}
    (h : (readSet root file release).run.value = .ok pset) :
    ∃ kind header found properties, SetKind.ofRoot? root.name = some kind ∧
      root.localName = .ok root.name ∧ (readHeader root release).run.value = .ok header ∧
      kind.parts root = .ok found ∧
      (readParts kind header.name found).run.value = .ok properties ∧
      pset = { header with properties } ∧
      (readSet root file release).run.log = (readHeader root release).run.log ++
        (readParts kind header.name found).run.log := by
  unfold readSet at h ⊢
  obtain ⟨own, hown, h⟩ := Attempt.value_bind_eq_ok_iff.mp h
  rw [Attempt.value_liftM_except] at hown
  rw [Attempt.log_bind_except hown]
  obtain rfl := Element.eq_name_of_localName hown
  cases hkind : SetKind.ofRoot? root.name with
  | none =>
    rw [hkind] at h
    cases h
  | some kind =>
    rw [hkind] at h
    obtain ⟨header, hheader, h⟩ := Attempt.value_bind_eq_ok_iff.mp h
    obtain ⟨found, hfound, h⟩ := Attempt.value_bind_eq_ok_iff.mp h
    obtain ⟨properties, hproperties, h⟩ := Attempt.value_bind_eq_ok_iff.mp h
    rw [Attempt.value_liftM_except] at hfound
    cases h
    refine ⟨kind, header, found, properties, rfl, hown, hheader, hfound, hproperties, rfl, ?_⟩
    dsimp only
    rw [Attempt.log_bind_ok hheader, Attempt.log_bind_except hfound,
      Attempt.log_bind_ok hproperties]
    exact congrArg _ (List.append_nil _)

/-- The properties are the first ones of all names among those that are read. -/
theorem readParts_eq_ok_iff {kind : SetKind} {set : String} {found : Found Element}
    {properties : List Property} :
    (readParts kind set found).run.value = .ok properties ↔
      (∃ all, found.all = .ok all) ∧
        ∃ reads, List.Forall₂ (fun e p? => (kind.readPart set e).run.value = .ok p?)
          found.values reads ∧ properties = firstOfEachName (reads.filterMap id) := by
  have hloop (l : List Property) :
      (found.values.foldlM (fun properties e => do
        addUnique set properties (← kind.readPart set e)) []).run.value = .ok l ↔
        ∃ reads, List.Forall₂ (fun e p? => (kind.readPart set e).run.value = .ok p?)
          found.values reads ∧ l = firstOfEachName (reads.filterMap id) := by
    simp only [Attempt.value_foldlM_read_eq_ok_iff, foldl_addUnique, List.map_nil, firstsBeyond_nil,
      List.nil_append, firstOfEachName_eq]
  unfold readParts
  constructor
  · intro h
    obtain ⟨read, hread, h⟩ := Attempt.value_bind_eq_ok_iff.mp h
    obtain ⟨all, hall, h⟩ := Attempt.value_bind_eq_ok_iff.mp h
    cases h
    exact ⟨⟨all, hall⟩, (hloop _).mp hread⟩
  · rintro ⟨⟨all, hall⟩, hreads⟩
    rw [Attempt.value_bind_ok ((hloop _).mpr hreads), Attempt.value_bind_except hall]
    rfl

/-! ### The elements of properties -/

namespace SetKind

/-- The elements of the properties of a set: those of one name inside the first child of another. -/
def partElements (kind : SetKind) (root : Element) : List Element :=
  match root.elements.find? (·.name == kind.partNames.1) with
  | none => []
  | some parts => parts.elements.filter (·.name == kind.partNames.2)

/-- The name of the element that holds the properties is not one for which a header is searched. -/
theorem partNames_ne (kind : SetKind) : kind.partNames.1 ∉
    ["Name", "IfcVersion", "ApplicableTypeValue", "ClassName"] ∧ kind.partNames.2 ≠ "ClassName" := by
  cases kind <;> decide

/-- It can be told, whatever the element is. -/
theorem localName_of_name_eq (kind : SetKind) {e : Element} (h : e.name = kind.partNames.1) :
    e.localName = .ok kind.partNames.1 := by
  rw [Element.localName, h]
  cases kind <;> rfl

end SetKind

/-- Where the search for the elements of properties comes to its end, it finds them. -/
theorem values_of_parts {kind : SetKind} {root : Element} {found : Found Element}
    (h : kind.parts root = .ok found) {all : List Element} (hall : found.all = .ok all) :
    found.values = kind.partElements root := by
  unfold SetKind.parts at h
  obtain ⟨parts?, hparts, h⟩ := except_bind_eq_ok_iff.mp h
  rw [SetKind.partElements, Element.find?_of_child? hparts]
  cases parts? with
  | none =>
    obtain rfl := Except.ok.inj h
    rfl
  | some parts =>
    obtain rfl := Except.ok.inj h
    obtain ⟨hnames, -⟩ := Element.all_named_eq_ok_iff.mp hall
    rw [Element.children, Element.named_eq_filter hnames]

/-! ### Elements that may be taken away -/

/-- An element of a property that has no name, and inside which no class is named. -/
structure SetKind.IsIdle (kind : SetKind) (e : Element) : Prop where
  isPart : e.name = kind.partNames.2
  nameless : e.childText? "Name" = .ok none
  classless : ∀ d ∈ e.inside, d.name ≠ "ClassName"

/-- The second element is the first one after some idle elements were taken from the first child
that holds elements of properties. -/
def SetKind.LosesIdle (kind : SetKind) (root other : Element) : Prop :=
  ∃ before parts after, root.content = before ++ .element parts :: after ∧
    (∀ e ∈ before.filterMap Node.element?, e.name ≠ kind.partNames.1) ∧
    parts.name = kind.partNames.1 ∧
    ∃ gone : Element → Bool, (∀ e ∈ parts.elements, gone e = true → kind.IsIdle e) ∧
      other = root.around before (parts.without gone) after

/-- An element without a name gives no property. -/
theorem value_readPart_of_nameless {kind : SetKind} {set : String} {e : Element}
    (h : e.childText? "Name" = .ok none) : (kind.readPart set e).run.value = .ok none := by
  cases kind with
  | properties =>
    show (readProperty set e).run.value = .ok none
    rw [readProperty, Attempt.value_bind_except h]
    rfl
  | quantities =>
    show (readQuantity set e).run.value = .ok none
    rw [readQuantity, Attempt.value_bind_except h]
    rfl

theorem exists_namedClasses_of_readHeader {root : Element} {release : String}
    {header : PropertySet} (h : (readHeader root release).run.value = .ok header) :
    ∃ named, (root.descendants "ClassName").all = .ok named := by
  unfold readHeader at h
  obtain ⟨name?, -, h⟩ := Attempt.value_bind_eq_ok_iff.mp h
  cases name? with
  | none => cases h
  | some name =>
    obtain ⟨declared, -, h⟩ := Attempt.value_bind_eq_ok_iff.mp h
    obtain ⟨ifdGuid, -, h⟩ := Attempt.value_bind_eq_ok_iff.mp h
    obtain ⟨classes, hclasses, -⟩ := Attempt.value_bind_eq_ok_iff.mp h
    rw [Attempt.value_liftM_except] at hclasses
    obtain ⟨named, hnamed, -⟩ := except_bind_eq_ok_iff.mp hclasses
    exact ⟨named, hnamed⟩

section

variable {kind : SetKind} {root parts : Element} {before after : List (Node Element)}
  {gone : Element → Bool} (hparts : parts.name = kind.partNames.1)
  (hgone : ∀ e ∈ parts.elements, gone e = true → kind.IsIdle e)
include hparts hgone

/-- The header does not tell which idle elements are there. -/
theorem readHeader_without {release : String} {header : PropertySet}
    (h : (readHeader (root.around before parts after) release).run.value = .ok header) :
    readHeader (root.around before (parts.without gone) after) release =
      readHeader (root.around before parts after) release := by
  obtain ⟨hsearched, hclass⟩ := kind.partNames_ne
  rw [← hparts] at hsearched
  simp only [List.mem_cons, not_or] at hsearched
  obtain ⟨hname, hversion, htype, hclassName, -⟩ := hsearched
  have hsame : (parts.without gone).name = parts.name := rfl
  have hclasses : namedClasses (root.around before (parts.without gone) after) =
      namedClasses (root.around before parts after) := by
    obtain ⟨named, hnamed⟩ := exists_namedClasses_of_readHeader h
    have hwithout := Element.all_descendants_around_without hnamed hclassName
      fun e he hgone' => by
        have hidle := hgone e he hgone'
        exact ⟨by rw [hidle.isPart]; exact hclass, hidle.classless⟩
    rw [namedClasses, namedClasses, hwithout, hnamed]
  have hdeclared : declaredVersion (root.around before (parts.without gone) after) =
      declaredVersion (root.around before parts after) := by
    rw [declaredVersion, Element.child?_around_of_ne root before after hsame hversion,
      declaredVersion]
  rw [readHeader, readHeader, Element.childText?_around_of_ne root before after hsame hname,
    Element.childText?_around_of_ne root before after hsame htype, hdeclared, hclasses]
  rfl

end

section

variable {kind : SetKind} {root parts : Element} {before after : List (Node Element)}
  (hparts : parts.name = kind.partNames.1)
  (hbefore : ∀ e ∈ before.filterMap Node.element?, e.name ≠ kind.partNames.1)
include hparts hbefore

/-- The elements of properties are those inside the first child that holds some, unless the search
for it ends before it. -/
theorem parts_around_eq_ok_iff {found : Found Element} :
    kind.parts (root.around before parts after) = .ok found ↔
      (Element.named kind.partNames.1 (before.filterMap Node.element?)).failure = none ∧
        found = parts.children kind.partNames.2 := by
  have hchild := Element.child?_around root before after (kind.localName_of_name_eq hparts) hbefore
  rw [SetKind.parts, hchild]
  cases (Element.named kind.partNames.1 (before.filterMap Node.element?)).failure with
  | none =>
    constructor
    · intro h
      exact ⟨rfl, (Except.ok.inj h).symm⟩
    · rintro ⟨-, rfl⟩
      rfl
  | some failure =>
    constructor
    · nofun
    · rintro ⟨hnone, -⟩
      cases hnone

/-- The elements of properties that are left after some are taken away. -/
theorem parts_without (gone : Element → Bool) {found : Found Element} {all : List Element}
    (h : kind.parts (root.around before parts after) = .ok found) (hall : found.all = .ok all) :
    (∀ e ∈ found.values, e ∈ parts.elements) ∧
      kind.parts (root.around before (parts.without gone) after) =
        .ok { values := found.values.filter (!gone ·) } := by
  obtain ⟨hfailure, rfl⟩ := (parts_around_eq_ok_iff hparts hbefore).mp h
  obtain ⟨hnames, -⟩ := Element.all_named_eq_ok_iff.mp hall
  have hfound : parts.children kind.partNames.2 =
      { values := parts.elements.filter (·.name == kind.partNames.2) } := by
    rw [Element.children, Element.named_eq_filter hnames]
  have hleft : (parts.without gone).children kind.partNames.2 =
      { values := (parts.children kind.partNames.2).values.filter (!gone ·) } := by
    have hnames' : ∀ e ∈ (parts.without gone).elements, e.localName = .ok e.name := by
      intro e he
      rw [Element.elements_without] at he
      exact hnames e (List.mem_of_mem_filter he)
    rw [hfound, Element.children, Element.named_eq_filter hnames', Element.elements_without,
      List.filter_filter, List.filter_filter]
    simp only [Bool.and_comm]
  refine ⟨?_, ?_⟩
  · intro e he
    rw [hfound] at he
    exact List.mem_of_mem_filter he
  · have hwithout : (parts.without gone).name = kind.partNames.1 := hparts
    rw [← hleft]
    exact (parts_around_eq_ok_iff hwithout hbefore).mpr ⟨hfailure, rfl⟩

end

/-- **Idle elements do not matter.**  Where a definition is read from an element, the same one is
read after some idle elements were taken away, be it with other reports. -/
theorem value_readSet_of_losesIdle {root other : Element} {file release : String}
    {pset : PropertySet} {kind : SetKind} (hkind : SetKind.ofRoot? root.name = some kind)
    (h : (readSet root file release).run.value = .ok pset) (hother : kind.LosesIdle root other) :
    (readSet other file release).run.value = .ok pset := by
  obtain ⟨before, parts, after, hcontent, hbefore, hparts, gone, hgone, rfl⟩ := hother
  have haround := Element.around_of_content before after hcontent
  obtain ⟨kind', header, found, properties, hkind', hroot, hheader, hfound, hproperties, rfl, -⟩ :=
    exists_of_readSet h
  obtain rfl : kind = kind' := Option.some.inj (hkind.symm.trans hkind')
  obtain ⟨⟨all, hall⟩, reads, hreads, rfl⟩ := readParts_eq_ok_iff.mp hproperties
  rw [← haround] at hheader hfound
  obtain ⟨hinside, hleft⟩ := parts_without hparts hbefore gone hfound hall
  -- what is taken away gave nothing, so the rest gives the same
  have hnothing : ∀ e ∈ found.values, gone e = true → ∀ p?,
      (kind.readPart header.name e).run.value = .ok p? → p? = none := by
    intro e he hgone' p? hp
    have hidle := hgone e (hinside e he) hgone'
    rw [value_readPart_of_nameless hidle.nameless] at hp
    exact (Except.ok.inj hp).symm
  obtain ⟨reads', hreads', heq⟩ := exists_forall₂_filter hreads hnothing
  have hread : (readParts kind header.name
      { values := found.values.filter (!gone ·) }).run.value =
        .ok (firstOfEachName (reads.filterMap id)) :=
    readParts_eq_ok_iff.mpr ⟨⟨_, rfl⟩, reads', hreads', by rw [heq]⟩
  have hheader' : (readHeader (root.around before (parts.without gone) after) release).run.value =
      .ok header := by
    rw [readHeader_without hparts hgone hheader]
    exact hheader
  exact readSet_eq_ok hroot hkind hheader' hleft hread

end PsetCompiler
