import PsetCompiler.Parameter.Classify
import PsetCompiler.Proofs.Definition.Parts
import Mathlib.Data.List.Count

/-!
# The members of complex properties

A definition keeps the first property of every name.  The members of a complex property are read by
another loop, which keeps every member that has a name and is not complex itself, whether its name
was met before or not.  So the members of one property may share a name, and then they share the
name of their parameter.

The name of the parameter of a member is made of three names with points between them.  Names may
have points in them too, so members of different properties can come to the same name, and so can a
member and a property that is not complex.  This is out of the question where no name of a property
has a point.

## Main definitions

* `spelledName?`, `spelledMembers` — the name of a property and those of its members, as they are
  spelled by its element.
* `SetKind.outline`, `Property.outline` — the names that a root element spells, and those of a
  property that was read.
* `PropertySet.NamesMembersOnce` — no other parameter has the name of a member's.
* `PropertySet.MembersApart` — that of no other property has it.

## Main results

* `map_name_of_readMembers` — the names of members that are read.
* `outline_of_readSet` — **of all properties the first of every name, and of the members all.**
* `PropertySet.namesMembersOnce_iff` — when the parameters of members are told apart by their names.
* `readSet_members_distinct_iff` — **when the members of a definition are told apart.**
-/

namespace PsetCompiler

open Markup (Element Found)

/-! ### What elements spell -/

/-- The element inside of which the members of a property are, if the property is complex. -/
def groupElement? (e : Element) : Option Element :=
  match typeElement? e with
  | .ok (some variant) => if variant.name = complexTypeName then some variant else none
  | _ => none

/-- The name that an element gives to its property, if it gives one. -/
def spelledName? (e : Element) : Option String :=
  (e.childText? "Name").toOption.join

/-- The name under which a member is kept. One without a name is not kept, nor is one that is
complex itself. -/
def memberName? (e : Element) : Option String :=
  if (groupElement? e).isSome then none else spelledName? e

/-- The names of the members of a property, as its element spells them. -/
def spelledMembers (e : Element) : List String :=
  match groupElement? e with
  | some variant => (memberDefs variant).values.filterMap memberName?
  | none => []

/-- The names of the members of a part of a set; a quantity has none. -/
def SetKind.membersUnder : SetKind → Element → List String
  | .properties => spelledMembers
  | .quantities => fun _ => []

/-- The names of the parts of a set in the order of their elements, each with those of its members.
-/
def SetKind.outline (kind : SetKind) (root : Element) : List (String × List String) :=
  (kind.partElements root).filterMap fun e => (spelledName? e).map (·, kind.membersUnder e)

/-- The name of a property, with those of its members. -/
def Property.outline (p : Property) : String × List String :=
  (p.name, p.members.map (·.name))

/-! ### What is read of them -/

theorem spelledName?_of_childText? {e : Element} {name? : Option String}
    (h : e.childText? "Name" = .ok name?) : spelledName? e = name? := by
  rw [spelledName?, h]
  rfl

/-- The type that is read is the complex one exactly if the element has members. -/
theorem valueType_of_readType {name place : String} {e : Element}
    {t? : Option (ValueType Property)} (h : (readType name place e).run.value = .ok t?) :
    (∃ variant group members, groupElement? e = some variant ∧
      t? = some (.complex group members) ∧
      (readMembers place (memberDefs variant).values).run.value = .ok members) ∨
    (groupElement? e = none ∧ ∀ t ∈ t?, t.isComplex = false) := by
  rw [readType] at h
  unfold groupElement?
  split at h
  · cases h
  · next hvariant =>
    rw [hvariant]
    cases h
    exact .inr ⟨rfl, nofun⟩
  · next variant hvariant =>
    obtain ⟨own, hown, h⟩ := Attempt.value_bind_eq_ok_iff.mp h
    rw [Attempt.value_liftM_except] at hown
    obtain rfl := Element.eq_name_of_localName hown
    rw [hvariant]
    dsimp only
    split at h
    · next hcomplex =>
      obtain ⟨members, hmembers, h⟩ := Attempt.value_bind_eq_ok_iff.mp h
      obtain ⟨elements, -, h⟩ := Attempt.value_bind_eq_ok_iff.mp h
      cases h
      exact .inl ⟨variant, _, members, if_pos hcomplex, rfl, hmembers⟩
    · next hsimple =>
      refine .inr ⟨if_neg hsimple, ?_⟩
      rintro t rfl
      exact (isPlain_of_simpleType h).simple

/-- What is read of an element has the name that it spells, or nothing is read. -/
theorem spelledName?_of_readProperty {set : String} {e : Element} {p? : Option Property}
    (h : (readProperty set e).run.value = .ok p?) : spelledName? e = p?.map (·.name) := by
  cases p? with
  | some p => exact spelledName?_of_childText? (readProperty_eq_some_iff.mp h).1
  | none =>
    rw [readProperty] at h
    obtain ⟨name?, hname, h⟩ := Attempt.value_bind_eq_ok_iff.mp h
    cases name? with
    | none => exact spelledName?_of_childText? hname
    | some name =>
      obtain ⟨ifdGuid, -, h⟩ := Attempt.value_bind_eq_ok_iff.mp h
      obtain ⟨aliases, -, h⟩ := Attempt.value_bind_eq_ok_iff.mp h
      obtain ⟨valueType, -, h⟩ := Attempt.value_bind_eq_ok_iff.mp h
      cases h

theorem isComplex_of_readProperty {set : String} {e : Element} {p : Property}
    (h : (readProperty set e).run.value = .ok (some p)) :
    p.isComplex = (groupElement? e).isSome := by
  obtain ⟨-, -, -, htype⟩ := readProperty_eq_some_iff.mp h
  rw [Property.isComplex]
  rcases valueType_of_readType htype with ⟨variant, group, members, hgroup, hvalue, -⟩ |
    ⟨hgroup, hsimple⟩
  · rw [hvalue, hgroup]
    rfl
  · rw [hgroup]
    cases hvalue : p.valueType with
    | none => rfl
    | some t => exact hsimple t hvalue

/-- A member is kept under its name. -/
theorem memberName?_of_readProperty {place : String} {e : Element} {read : Option Property}
    (h : (readProperty place e).run.value = .ok read) :
    (keepMember place read).value.map (·.name) = memberName? e := by
  have hname := spelledName?_of_readProperty h
  unfold keepMember memberName?
  rw [hname]
  cases read with
  | none => exact (ite_self none).symm
  | some p =>
    rw [← isComplex_of_readProperty h]
    dsimp only
    split
    · rfl
    · rfl

/-- The names of members that are read: all of those that are spelled, repeated ones too. -/
theorem map_name_of_readMembers {place : String} {elements : List Element}
    {members : List Property} (h : (readMembers place elements).run.value = .ok members) :
    members.map (·.name) = elements.filterMap memberName? := by
  induction elements generalizing members with
  | nil =>
    cases (value_readMembers_nil place).symm.trans h
    rfl
  | cons e rest ih =>
    obtain ⟨read, others, hread, hothers, rfl⟩ := readMembers_cons_eq_ok_iff.mp h
    rw [List.map_append, ih hothers, List.filterMap_cons, ← memberName?_of_readProperty hread]
    cases (keepMember place read).value with
    | none => rfl
    | some m => rfl

theorem map_name_members_of_readProperty {set : String} {e : Element} {p : Property}
    (h : (readProperty set e).run.value = .ok (some p)) :
    p.members.map (·.name) = spelledMembers e := by
  obtain ⟨-, -, -, htype⟩ := readProperty_eq_some_iff.mp h
  unfold spelledMembers
  rcases valueType_of_readType htype with ⟨variant, group, members, hgroup, hvalue, hmembers⟩ |
    ⟨hgroup, hsimple⟩
  · rw [hgroup, Property.members, hvalue]
    exact map_name_of_readMembers hmembers
  · rw [hgroup, Property.members_eq_nil]
    · rfl
    · rw [isComplex_of_readProperty h, hgroup]
      rfl

/-- A part that is read has the names that its element spells. -/
theorem outline_of_readPart {kind : SetKind} {set : String} {e : Element} {p? : Option Property}
    (h : (kind.readPart set e).run.value = .ok p?) :
    (spelledName? e).map (·, kind.membersUnder e) = p?.map Property.outline := by
  cases kind with
  | properties =>
    rw [spelledName?_of_readProperty h]
    cases p? with
    | none => rfl
    | some p =>
      show some (p.name, spelledMembers e) = some (p.name, p.members.map (·.name))
      rw [map_name_members_of_readProperty h]
  | quantities =>
    replace h : (readQuantity set e).run.value = .ok p? := h
    cases p? with
    | some p =>
      obtain ⟨hname, -, -⟩ := of_readQuantity h
      have hmembers : p.members = [] := Property.members_eq_nil (isNormal_of_readQuantity h).2
      rw [spelledName?_of_childText? hname, Option.map_some, Option.map_some, Property.outline,
        hmembers]
      rfl
    | none =>
      rw [readQuantity] at h
      obtain ⟨name?, hname, h⟩ := Attempt.value_bind_eq_ok_iff.mp h
      cases name? with
      | none =>
        rw [spelledName?_of_childText? hname]
        rfl
      | some name =>
        obtain ⟨quantity, -, h⟩ := Attempt.value_bind_eq_ok_iff.mp h
        obtain ⟨dataType, -, h⟩ := Attempt.value_bind_eq_ok_iff.mp h
        obtain ⟨ifdGuid, -, h⟩ := Attempt.value_bind_eq_ok_iff.mp h
        obtain ⟨aliases, -, h⟩ := Attempt.value_bind_eq_ok_iff.mp h
        cases h

/-- Parts that are read one by one have the names that their elements spell. -/
theorem filterMap_outline_of_forall₂ {kind : SetKind} {set : String} {elements : List Element}
    {reads : List (Option Property)}
    (h : List.Forall₂ (fun e p? => (kind.readPart set e).run.value = .ok p?) elements reads) :
    elements.filterMap (fun e => (spelledName? e).map (·, kind.membersUnder e)) =
      (reads.filterMap id).map Property.outline := by
  induction h with
  | nil => rfl
  | @cons e p? elements reads hread _ ih =>
    rw [List.filterMap_cons, List.filterMap_cons, outline_of_readPart hread, ih]
    cases p? with
    | none => rfl
    | some p => rfl

/-- **Of all properties the first of every name is kept, and of the members of each all.** -/
theorem outline_of_readSet {root : Element} {file release : String} {pset : PropertySet}
    (h : (readSet root file release).run.value = .ok pset) :
    ∃ kind, SetKind.ofRoot? root.name = some kind ∧
      pset.properties.map Property.outline = firstOfEach Prod.fst (kind.outline root) := by
  obtain ⟨kind, header, found, properties, hkind, -, -, hfound, hproperties, rfl, -⟩ :=
    exists_of_readSet h
  obtain ⟨⟨all, hall⟩, reads, hreads, rfl⟩ := readParts_eq_ok_iff.mp hproperties
  refine ⟨kind, hkind, ?_⟩
  rw [SetKind.outline, ← values_of_parts hfound hall, filterMap_outline_of_forall₂ hreads,
    ← map_firstOfEach, firstOfEachName_eq]
  rfl

/-! ### Names of parameters -/

namespace PropertySet

/-- The names of the parameters under one property. -/
def namesUnder (pset : PropertySet) (qualified : Bool) (p : Property) : List String :=
  if p.isComplex then p.members.map fun m => pset.qualifiedName (some p.name, m)
  else if qualified then [pset.qualifiedName (none, p)]
  else [p.name]

/-- The name of a member's parameter is that of one parameter only. -/
def NamesMembersOnce (pset : PropertySet) (qualified : Bool) : Prop :=
  ∀ p ∈ pset.properties, ∀ m ∈ p.members,
    ((pset.parameterNames qualified).map (·.1)).count (pset.qualifiedName (some p.name, m)) = 1

/-- The name of a member's parameter is none of those under a property with another name. -/
def MembersApart (pset : PropertySet) (qualified : Bool) : Prop :=
  ∀ p ∈ pset.properties, ∀ q ∈ pset.properties, q.name ≠ p.name →
    ∀ m ∈ p.members, pset.qualifiedName (some p.name, m) ∉ pset.namesUnder qualified q

variable {pset : PropertySet} {qualified : Bool} {p m : Property}

theorem map_parameterNames_eq_flatMap (pset : PropertySet) (qualified : Bool) :
    (pset.parameterNames qualified).map (·.1) =
      pset.properties.flatMap (pset.namesUnder qualified) := by
  rw [parameterNames, List.map_flatMap]
  refine List.flatMap_congr fun p _ => ?_
  unfold namesUnder
  split
  · exact List.map_map
  · split
    · rfl
    · rfl

theorem isComplex_of_mem_members (h : m ∈ p.members) : p.isComplex = true := by
  by_contra hsimple
  rw [Property.members_eq_nil (Bool.eq_false_iff.mpr hsimple)] at h
  cases h

/-- Under its own property, the name of a member counts the members of its name. -/
theorem count_namesUnder_self (h : m ∈ p.members) :
    (pset.namesUnder qualified p).count (pset.qualifiedName (some p.name, m)) =
      (p.members.map (·.name)).count m.name := by
  have hinjective : Function.Injective fun name : String =>
      pset.name ++ "." ++ p.name ++ "." ++ name := by
    intro name name' heq
    exact String.append_right_inj _ |>.mp heq
  rw [namesUnder, if_pos (isComplex_of_mem_members h)]
  show List.count _ (p.members.map ((pset.name ++ "." ++ p.name ++ "." ++ ·) ∘ (·.name))) = _
  rw [← List.map_map]
  exact List.count_map_of_injective _ _ hinjective m.name

/-- Where properties have different names, the name of a member is that of one parameter only if no
other member of its property has its name, and no other property comes to it. -/
theorem count_qualifiedName_eq_one_iff (hnames : (pset.properties.map (·.name)).Nodup)
    (hp : p ∈ pset.properties) (hm : m ∈ p.members) :
    ((pset.parameterNames qualified).map (·.1)).count (pset.qualifiedName (some p.name, m)) = 1 ↔
      (p.members.map (·.name)).count m.name = 1 ∧
        ∀ q ∈ pset.properties, q.name ≠ p.name →
          pset.qualifiedName (some p.name, m) ∉ pset.namesUnder qualified q := by
  generalize hname : pset.qualifiedName (some p.name, m) = name
  have hzero (l : List Property) : (l.flatMap (pset.namesUnder qualified)).count name = 0 ↔
      ∀ q ∈ l, name ∉ pset.namesUnder qualified q := by
    rw [List.count_eq_zero, List.mem_flatMap, not_exists]
    exact forall_congr' fun q => not_and
  have hself : 0 < (p.members.map (·.name)).count m.name :=
    List.count_pos_iff.mpr (List.mem_map_of_mem hm)
  obtain ⟨before, after, hsplit⟩ := List.append_of_mem hp
  rw [hsplit, List.map_append, List.map_cons] at hnames
  obtain ⟨-, hafter, hapart⟩ := List.nodup_append.mp hnames
  have hbefore : ∀ q ∈ before, q.name ≠ p.name := fun q hq =>
    hapart q.name (List.mem_map_of_mem hq) p.name List.mem_cons_self
  replace hafter : ∀ q ∈ after, q.name ≠ p.name := by
    intro q hq heq
    exact (List.nodup_cons.mp hafter).1 (heq ▸ List.mem_map_of_mem hq)
  rw [map_parameterNames_eq_flatMap, hsplit, List.flatMap_append, List.flatMap_cons,
    List.count_append, List.count_append, ← hname, count_namesUnder_self hm, hname]
  constructor
  · intro hcount
    refine ⟨by omega, ?_⟩
    have hnone := (hzero before).mp (by omega)
    have hnone' := (hzero after).mp (by omega)
    intro q hq hne
    rcases List.mem_append.mp hq with hq | hq
    · exact hnone q hq
    · rcases List.mem_cons.mp hq with rfl | hq
      · exact absurd rfl hne
      · exact hnone' q hq
  · rintro ⟨hone, hnone⟩
    have hnone' := (hzero before).mpr fun q hq =>
      hnone q (List.mem_append_left _ hq) (hbefore q hq)
    have hnone'' := (hzero after).mpr fun q hq =>
      hnone q (List.mem_append_right _ (List.mem_cons_of_mem _ hq)) (hafter q hq)
    omega

/-- **When the parameters of members are told apart by their names**: members of one property have
different names, and none comes to a name under another property. -/
theorem namesMembersOnce_iff (hnames : (pset.properties.map (·.name)).Nodup) :
    pset.NamesMembersOnce qualified ↔
      (∀ p ∈ pset.properties, (p.members.map (·.name)).Nodup) ∧ pset.MembersApart qualified := by
  simp only [List.nodup_iff_count_eq_one, List.forall_mem_map]
  constructor
  · intro h
    refine ⟨fun p hp m hm => ?_, fun p hp q hq hne m hm => ?_⟩
    · exact ((count_qualifiedName_eq_one_iff hnames hp hm).mp (h p hp m hm)).1
    · exact ((count_qualifiedName_eq_one_iff hnames hp hm).mp (h p hp m hm)).2 q hq hne
  · rintro ⟨hmembers, hapart⟩ p hp m hm
    exact (count_qualifiedName_eq_one_iff hnames hp hm).mpr
      ⟨hmembers p hp m hm, fun q hq hne => hapart p hp q hq hne m hm⟩

/-- What stands in front of the first point of a text. -/
theorem eq_of_append_point {s t u v : String} (hs : '.' ∉ s.toList) (ht : '.' ∉ t.toList)
    (h : s ++ "." ++ u = t ++ "." ++ v) : s = t := by
  have hfront {s u : String} (hs : '.' ∉ s.toList) :
      (s ++ "." ++ u).toList.takeWhile (· ≠ '.') = s.toList := by
    have hall : ∀ c ∈ s.toList, decide (c ≠ '.') = true := by
      intro c hc
      refine decide_eq_true fun heq => hs ?_
      rwa [← heq]
    rw [String.append_assoc, String.toList_append, List.takeWhile_append_of_pos hall,
      String.toList_append]
    exact List.append_nil _
  have hlist := congrArg (fun s => s.toList.takeWhile (· ≠ '.')) h
  rw [hfront hs, hfront ht] at hlist
  exact String.toList_injective hlist

theorem qualifiedName_some (pset : PropertySet) (parent : String) (m : Property) :
    pset.qualifiedName (some parent, m) = pset.name ++ "." ++ (parent ++ "." ++ m.name) := by
  simp only [qualifiedName, String.append_assoc]

/-- Names of properties that have no points keep the members of different properties apart. -/
theorem membersApart_of_pointless (h : ∀ p ∈ pset.properties, '.' ∉ p.name.toList) :
    pset.MembersApart qualified := by
  intro p hp q hq hne m _ hmem
  have hpoint : '.' ∈ (p.name ++ "." ++ m.name).toList := by simp
  rw [qualifiedName_some] at hmem
  unfold namesUnder at hmem
  split at hmem
  -- a member of the other property: the names of both properties end at the first point
  · obtain ⟨m', -, heq⟩ := List.mem_map.mp hmem
    rw [qualifiedName_some, String.append_right_inj] at heq
    exact hne (eq_of_append_point (h q hq) (h p hp) heq)
  -- the other property itself: its name would have a point
  · split at hmem
    · have heq : pset.name ++ "." ++ (p.name ++ "." ++ m.name) = pset.name ++ "." ++ q.name :=
        List.mem_singleton.mp hmem
      rw [String.append_right_inj] at heq
      exact h q hq (heq ▸ hpoint)
    · have heq := List.mem_singleton.mp hmem
      refine h q hq ?_
      rw [← heq, String.toList_append]
      exact List.mem_append_right _ hpoint

end PropertySet

/-- **When the members of a definition are told apart.**  Of the properties the first of every name
is kept, so these are told apart; of the members all are kept, so those are told apart only if no
element that is kept repeats a name.  The name of a member's parameter is given once if and only if
that is so and the names under different properties are different, which they are if no name of a
property has a point. -/
theorem readSet_members_distinct_iff {root : Element} {file release : String} {pset : PropertySet}
    (h : (readSet root file release).run.value = .ok pset) :
    ∃ kind, SetKind.ofRoot? root.name = some kind ∧
      pset.properties.map Property.outline = firstOfEach Prod.fst (kind.outline root) ∧
      (pset.properties.map (·.name)).Nodup ∧
      ((∀ p ∈ pset.properties, (p.members.map (·.name)).Nodup) ↔
        ∀ names ∈ firstOfEach Prod.fst (kind.outline root), names.2.Nodup) ∧
      ∀ qualified,
        (pset.NamesMembersOnce qualified ↔
          (∀ p ∈ pset.properties, (p.members.map (·.name)).Nodup) ∧
            pset.MembersApart qualified) ∧
        ((∀ p ∈ pset.properties, '.' ∉ p.name.toList) → pset.MembersApart qualified) := by
  obtain ⟨kind, hkind, houtline⟩ := outline_of_readSet h
  have hnames : (pset.properties.map (·.name)).Nodup := by
    have hfirst := nodup_map_firstOfEach Prod.fst (kind.outline root)
    rw [← houtline, List.map_map] at hfirst
    exact hfirst
  refine ⟨kind, hkind, houtline, hnames, ?_, fun qualified =>
    ⟨PropertySet.namesMembersOnce_iff hnames, PropertySet.membersApart_of_pointless⟩⟩
  rw [← houtline, List.forall_mem_map]
  rfl

/-! ### A member that is repeated -/

/-- The element of a complex property that spells one member twice. -/
def lockElement : Element :=
  propertyElement "Lock" ""
    { name := "TypeComplexProperty"
      content := [.element (labelElement "Status"), .element (labelElement "Status")] }

def lockRoot : Element :=
  { name := "PropertySetDef"
    content :=
      [.element (textElement "Name" "Pset_Lock"),
        .element (textElement "IfcVersion" "2x3"),
        .element { name := "PropertyDefs", content := [.element lockElement] }] }

def lockProperty : Property :=
  { name := "Lock"
    valueType := some (.complex "Lock" [labelProperty "Status", labelProperty "Status"]) }

/-- What is read of it: both members are kept. -/
def lockSet : PropertySet :=
  { name := "Pset_Lock", version := "IFC2X3", release := "IFC2X3", properties := [lockProperty] }

theorem value_readProperty_lock :
    (readProperty "Pset_Lock" lockElement).run.value = .ok (some lockProperty) := by
  have hstatus : (readProperty "Pset_Lock.Lock" (labelElement "Status")).run.value =
      .ok (some (labelProperty "Status")) := value_readProperty_label rfl
  have hmembers : (readMembers "Pset_Lock.Lock"
      [labelElement "Status", labelElement "Status"]).run.value =
        .ok [labelProperty "Status", labelProperty "Status"] :=
    readMembers_cons_eq_ok_iff.mpr ⟨_, _, hstatus,
      readMembers_cons_eq_ok_iff.mpr ⟨_, _, hstatus, value_readMembers_nil _, rfl⟩, rfl⟩
  exact readProperty_eq_some_iff.mpr ⟨rfl, rfl, rfl,
    readType_eq_some_iff.mpr ⟨_, _, rfl, rfl, .inl ⟨rfl, _, _, hmembers, rfl, rfl⟩⟩⟩

theorem value_readSet_lock :
    (readSet lockRoot "Pset_Lock.xml" "IFC2X3").run.value = .ok lockSet := by
  have hheader : (readHeader lockRoot "IFC2X3").run.value =
      .ok { name := "Pset_Lock", version := "IFC2X3", release := "IFC2X3" } := rfl
  have hparts : SetKind.properties.parts lockRoot = .ok { values := [lockElement] } := rfl
  have hread : (readParts .properties "Pset_Lock" { values := [lockElement] }).run.value =
      .ok [lockProperty] :=
    readParts_eq_ok_iff.mpr ⟨⟨_, rfl⟩, [some lockProperty], .cons value_readProperty_lock .nil, rfl⟩
  exact readSet_eq_ok rfl rfl hheader hparts hread

theorem readSet_members_distinct_iff_lock :
    (readSet lockRoot "Pset_Lock.xml" "IFC2X3").run.value = .ok lockSet ∧
      ∃ kind, SetKind.ofRoot? lockRoot.name = some kind ∧
        lockSet.properties.map Property.outline = firstOfEach Prod.fst (kind.outline lockRoot) ∧
        (lockSet.properties.map (·.name)).Nodup ∧
        ((∀ p ∈ lockSet.properties, (p.members.map (·.name)).Nodup) ↔
          ∀ names ∈ firstOfEach Prod.fst (kind.outline lockRoot), names.2.Nodup) ∧
        ∀ qualified,
          (lockSet.NamesMembersOnce qualified ↔
            (∀ p ∈ lockSet.properties, (p.members.map (·.name)).Nodup) ∧
              lockSet.MembersApart qualified) ∧
          ((∀ p ∈ lockSet.properties, '.' ∉ p.name.toList) → lockSet.MembersApart qualified) :=
  ⟨value_readSet_lock, readSet_members_distinct_iff value_readSet_lock⟩

/-- A definition is read in which two members of one property share their name and the name of their
parameter. -/
theorem not_namesMembersOnce_lock :
    (readSet lockRoot "Pset_Lock.xml" "IFC2X3").run.value = .ok lockSet ∧
      lockSet.properties.map Property.outline = [("Lock", ["Status", "Status"])] ∧
      lockSet.parameterNames.map (·.1) = ["Pset_Lock.Lock.Status", "Pset_Lock.Lock.Status"] ∧
      ¬ lockSet.NamesMembersOnce false := by
  refine ⟨value_readSet_lock, rfl, by decide, fun honce => ?_⟩
  have hcount := honce lockProperty List.mem_cons_self (labelProperty "Status") List.mem_cons_self
  exact absurd hcount (by decide)

end PsetCompiler
