import PsetCompiler.Proofs.Entity.Alike

/-!
# Forests from their written form

The written form lists the entities of a forest by name, so they are declared in another order than
they came in.  Whatever the order is, a forest that is made from declarations of this one is a part
of it at every moment.  Its entities are complete or still placeholders; a placeholder is made for a
parent and has the name of the parent in full, as the written form names it.  Its links are links of
the original forest, so none of them closes a cycle and none is refused.  Once all entities are
declared, all are complete.

An enumeration is only ever named anew by a declaration, and the empty text names none; so what is
written as an empty text could not be read back.  No declaration leaves such an entity.

## Main definitions

* `Forest.IsDeclared` — the forest is one that declarations make.
* `Forest.NamesEnums` — no entity names its enumeration by the empty text.
* `Forest.describe` — the declaration of an entity without its parent.
* `Forest.Restores` — a forest on the way to the one that was written.

## Main results

* `Forest.Restores.exists_add`, `Forest.Restores.exists_addRecords` — a declaration of the written
  form, and many of them.
* `Forest.IsDeclared.exists_ofDocument` — **the forest of a written form is alike, and nothing is
  reported.**
-/

namespace PsetCompiler

namespace Forest

variable {forest made : Forest}

/-! ### Declared forests -/

/-- The forest is one that declarations make, in any order and with whatever arguments; its
enumerations are any, of different names. -/
def IsDeclared (forest : Forest) : Prop :=
  ∃ version records enums, (enums.map (·.1)).Nodup ∧
    forest = (ofRecords version records enums).value

/-- No entity names its enumeration by the empty text. -/
def NamesEnums (forest : Forest) : Prop :=
  ∀ key e, forest.entity? key = some e → e.predefinedTypeEnum ≠ some ""

theorem Entity.declared_ne_empty {e : Entity} (h : e.predefinedTypeEnum ≠ some "")
    (enum : Option String) (isAbstract : Bool) :
    (Entity.declared e enum isAbstract).predefinedTypeEnum ≠ some "" := by
  cases enum with
  | none => exact h
  | some enum =>
    rw [Entity.declared]
    dsimp only
    split
    · exact h
    · next hfilled => exact fun heq => hfilled (Option.some.inj heq)

/-- An entity or its placeholder is completed by what the declaration says of the entity. -/
theorem Entity.declared_eq {old e : Entity} (h : e.predefinedTypeEnum ≠ some "")
    (hold : old = e ∨ old = { name := e.name }) :
    Entity.declared old e.predefinedTypeEnum e.isAbstract = e := by
  obtain ⟨name, isAbstract, enum⟩ := e
  cases enum with
  | none => rcases hold with rfl | rfl <;> rfl
  | some enum =>
    rw [Entity.declared, if_neg fun heq => h (congrArg some heq)]
    rcases hold with rfl | rfl <;> rfl

namespace NamesEnums

theorem ensure (h : forest.NamesEnums) (name : String) : (forest.ensure name).NamesEnums := by
  intro key e he
  rcases entity?_of_ensure he with hold | ⟨-, rfl⟩
  · exact h key e hold
  · exact nofun

theorem modify (h : forest.NamesEnums) (key : String) (enum : Option String) (isAbstract : Bool) :
    (forest.modify key (Entity.declared · enum isAbstract)).NamesEnums := by
  intro other e he
  rw [entity?_modify] at he
  split at he
  · obtain ⟨old, hold, rfl⟩ := Option.map_eq_some_iff.mp he
    exact Entity.declared_ne_empty (h key old hold) enum isAbstract
  · exact h other e he

theorem link (h : forest.NamesEnums) (child parent : String) :
    (forest.link child parent).NamesEnums := by
  intro key e he
  rw [entity?, entities_link] at he
  exact h key e he

theorem add (h : forest.NamesEnums) (name : String) (parent enum : Option String)
    (isAbstract : Bool) : (forest.add name parent enum isAbstract).value.NamesEnums := by
  unfold Forest.add
  split
  · rw [Report.value_bind]
    cases (declaredParent name parent).value with
    | none => exact (h.ensure name).modify _ enum isAbstract
    | some found =>
      have hmade := ((h.ensure found).ensure name).modify (Text.foldCase name) enum isAbstract
      dsimp only
      split
      · exact hmade
      · exact hmade.link _ _
  · exact h

theorem addRecords (h : forest.NamesEnums) (records : List EntityRecord) :
    (forest.addRecords records).value.NamesEnums := by
  induction records generalizing forest with
  | nil => exact h
  | cons r rest ih => exact ih (h.add r.name r.parent r.predefinedTypeEnum r.isAbstract)

end NamesEnums

/-- The enumerations are no part of the invariant. -/
theorem WellFormed.withEnums (h : forest.WellFormed) (enums : List (String × List String)) :
    WellFormed { forest with predefinedTypeEnums := enums } :=
  h.of_links_eq rfl (List.Subset.refl _) h.nodup_keys
    fun entry hentry => ⟨h.key_eq entry hentry, h.isEntityName entry hentry⟩

namespace IsDeclared

variable (h : forest.IsDeclared)
include h

theorem wellFormed : forest.WellFormed := by
  obtain ⟨version, records, enums, -, rfl⟩ := h
  exact ((wellFormed_empty version []).addRecords records).withEnums enums

theorem namesEnums : forest.NamesEnums := by
  obtain ⟨version, records, enums, -, rfl⟩ := h
  have hempty : NamesEnums { version } := fun _ _ => nofun
  exact hempty.addRecords records

theorem nodup_enums : (forest.predefinedTypeEnums.map (·.1)).Nodup := by
  obtain ⟨version, records, enums, hnodup, rfl⟩ := h
  exact hnodup

end IsDeclared

/-! ### The declarations of a written form -/

/-- The declaration of an entity without its parent. -/
def describe (forest : Forest) (name : String) (enum : Option String) (isAbstract : Bool) :
    Forest :=
  (forest.ensure name).modify (Text.foldCase name) (Entity.declared · enum isAbstract)

theorem parent?_describe (forest : Forest) (name : String) (enum : Option String)
    (isAbstract : Bool) (key : String) :
    (forest.describe name enum isAbstract).parent? key = forest.parent? key := by
  change (forest.ensure name).links.lookup key = forest.links.lookup key
  rw [links_ensure]

theorem entity?_describe (forest : Forest) (name : String) (enum : Option String)
    (isAbstract : Bool) (key : String) :
    (forest.describe name enum isAbstract).entity? key =
      if key = Text.foldCase name then
        some (Entity.declared ((forest.entity? (Text.foldCase name)).getD { name }) enum isAbstract)
      else forest.entity? key := by
  rw [describe, entity?_modify, entity?_ensure, if_pos rfl]
  split
  · rfl
  · next hne => rw [entity?_ensure, if_neg hne]

theorem keys_describe (forest : Forest) (name : String) (enum : Option String)
    (isAbstract : Bool) : (forest.describe name enum isAbstract).entities.map (·.1) =
      (forest.ensure name).entities.map (·.1) :=
  keys_modify _ _ _

theorem WellFormed.describe (h : forest.WellFormed) {name : String}
    (hname : PsetCompiler.isEntityName name = true) (enum : Option String) (isAbstract : Bool) :
    (forest.describe name enum isAbstract).WellFormed :=
  (h.ensure hname).modify _ fun _ => rfl

theorem declaredParent_of_isEntityName (name : String) {parent : String}
    (h : PsetCompiler.isEntityName parent = true) :
    declaredParent name (some parent) = pure (some parent) := by
  have hroot : ¬(parent = "" ∨ parent = schemaRoot) := by
    rintro (rfl | rfl) <;> exact absurd h (by decide)
  rw [declaredParent, if_neg hroot, if_pos h]

theorem add_of_none {name : String} (hname : PsetCompiler.isEntityName name = true)
    (enum : Option String) (isAbstract : Bool) :
    forest.add name none enum isAbstract = pure (forest.describe name enum isAbstract) := by
  rw [add, if_pos hname]
  rfl

theorem add_of_some {name parent : String} (hname : PsetCompiler.isEntityName name = true)
    (hparent : PsetCompiler.isEntityName parent = true) (enum : Option String) (isAbstract : Bool)
    (hcycle : Text.foldCase name ∉ Text.foldCase parent ::
      ((forest.ensure parent).describe name enum isAbstract).ancestors (Text.foldCase parent)) :
    forest.add name (some parent) enum isAbstract =
      pure (((forest.ensure parent).describe name enum isAbstract).link (Text.foldCase name)
        (Text.foldCase parent)) := by
  have hfree : ¬(Text.foldCase parent = Text.foldCase name ∨
      (((forest.ensure parent).describe name enum isAbstract).ancestors
        (Text.foldCase parent)).contains (Text.foldCase name) = true) := by
    rwa [List.contains_iff_mem, @eq_comm _ (Text.foldCase parent), ← List.mem_cons]
  rw [add, if_pos hname, declaredParent_of_isEntityName name hparent, pure_bind]
  exact if_neg hfree

/-! ### On the way to the forest that was written -/

/-- A forest on the way to the one that was written, when some of its entities were declared. -/
structure Restores (forest : Forest) (declared : List String) (made : Forest) : Prop where
  wellFormed : made.WellFormed
  version_eq : made.version = forest.version
  /-- The entities are those of the forest, or placeholders for them. -/
  entity?_cases : ∀ key e, made.entity? key = some e →
    ∃ written, forest.entity? key = some written ∧ (e = written ∨ e = { name := written.name })
  /-- The links are those of the forest. -/
  parent?_sub : ∀ key parent, made.parent? key = some parent → forest.parent? key = some parent
  /-- What was declared is complete, -/
  entity?_declared : ∀ key ∈ declared, made.entity? key = forest.entity? key
  /-- and is linked to its parent. -/
  parent?_declared : ∀ key ∈ declared, made.parent? key = forest.parent? key

namespace Restores

variable {declared : List String}

theorem empty (forest : Forest) : forest.Restores [] { version := forest.version } where
  wellFormed := wellFormed_empty forest.version []
  version_eq := rfl
  entity?_cases := fun _ _ => nofun
  parent?_sub := fun _ _ => nofun
  entity?_declared := nofun
  parent?_declared := nofun

/-- Inheritance on the way is inheritance in the forest that was written. -/
theorem strictlyBelow (h : forest.Restores declared made) {key above : String}
    (hbelow : made.StrictlyBelow key above) : forest.StrictlyBelow key above :=
  Relation.TransGen.mono (fun key parent => h.parent?_sub key parent) key above hbelow

/-- No link of the forest that was written closes a cycle. -/
theorem notMem_ancestors (h : forest.Restores declared made) (hforest : forest.WellFormed)
    {key parent : String} (hparent : forest.parent? key = some parent) :
    key ∉ parent :: made.ancestors parent := by
  have hstep : forest.StrictlyBelow key parent := .single hparent
  rw [List.mem_cons]
  rintro (rfl | hmem)
  · exact hforest.not_strictlyBelow_self _ hstep
  · have hback := h.strictlyBelow (h.wellFormed.mem_ancestors_iff.mp hmem)
    exact hforest.not_strictlyBelow_self _ (hstep.trans hback)

theorem cons (h : forest.Restores declared made) {key : String}
    (hentity : made.entity? key = forest.entity? key)
    (hparent : made.parent? key = forest.parent? key) :
    forest.Restores (key :: declared) made where
  wellFormed := h.wellFormed
  version_eq := h.version_eq
  entity?_cases := h.entity?_cases
  parent?_sub := h.parent?_sub
  entity?_declared := List.forall_mem_cons.mpr ⟨hentity, h.entity?_declared⟩
  parent?_declared := List.forall_mem_cons.mpr ⟨hparent, h.parent?_declared⟩

/-! #### The parts of a declaration -/

section

variable (h : forest.Restores declared made) (hforest : forest.WellFormed) {key : String}
  {e : Entity} (he : forest.entity? key = some e)
include h hforest he

/-- A placeholder is made, unless the entity is there. -/
theorem ensure : forest.Restores declared (made.ensure e.name) := by
  have hmem : (key, e) ∈ forest.entities := mem_of_lookup he
  have hkey : key = Text.foldCase e.name := hforest.key_eq _ hmem
  have hparent (k : String) : (made.ensure e.name).parent? k = made.parent? k := by
    rw [parent?, links_ensure, parent?]
  refine
    { wellFormed := h.wellFormed.ensure (hforest.isEntityName _ hmem)
      version_eq := ?_
      entity?_cases := ?_
      parent?_sub := fun k parent hk => h.parent?_sub k parent ((hparent k).symm.trans hk)
      entity?_declared := ?_
      parent?_declared := fun k hk => (hparent k).trans (h.parent?_declared k hk) }
  · unfold Forest.ensure
    split <;> exact h.version_eq
  · intro k found hfound
    rcases entity?_of_ensure hfound with hold | ⟨rfl, rfl⟩
    · exact h.entity?_cases k found hold
    · exact ⟨e, hkey ▸ he, .inr rfl⟩
  · intro k hk
    rw [entity?_ensure, ← hkey, h.entity?_declared k hk]
    split
    · next heq =>
      rw [heq, he]
      rfl
    · rfl

variable (henum : e.predefinedTypeEnum ≠ some "")
include henum

/-- An entity or its placeholder is completed. -/
theorem entity?_describe (other : String) :
    (made.describe e.name e.predefinedTypeEnum e.isAbstract).entity? other =
      if other = key then some e else made.entity? other := by
  have hkey : key = Text.foldCase e.name := hforest.key_eq _ (mem_of_lookup he)
  rw [Forest.entity?_describe, ← hkey]
  split
  · refine congrArg some (Entity.declared_eq henum ?_)
    cases hold : made.entity? key with
    | none => exact .inr rfl
    | some old =>
      obtain ⟨written, hwritten, hcases⟩ := h.entity?_cases key old hold
      obtain rfl : e = written := Option.some.inj (he.symm.trans hwritten)
      exact hcases
  · rfl

theorem describe :
    forest.Restores declared (made.describe e.name e.predefinedTypeEnum e.isAbstract) := by
  have hmade := h.ensure hforest he
  have hentity := h.entity?_describe hforest he henum
  refine
    { wellFormed := hmade.wellFormed.modify _ fun _ => rfl
      version_eq := hmade.version_eq
      entity?_cases := ?_
      parent?_sub := hmade.parent?_sub
      entity?_declared := ?_
      parent?_declared := hmade.parent?_declared }
  · intro other found hfound
    rw [hentity] at hfound
    split at hfound
    · next heq =>
      rw [heq]
      exact ⟨e, he, .inl (Option.some.inj hfound).symm⟩
    · exact h.entity?_cases other found hfound
  · intro other hother
    rw [hentity, h.entity?_declared other hother]
    split
    · next heq => rw [heq, he]
    · rfl

end

/-- A link of the forest that was written is made. -/
theorem link (h : forest.Restores declared made) (hforest : forest.WellFormed)
    {key parent : String} (hparent : forest.parent? key = some parent)
    (hkey : key ∈ made.entities.map (·.1)) (hstored : parent ∈ made.entities.map (·.1)) :
    forest.Restores declared (made.link key parent) := by
  have hentity (other : String) : (made.link key parent).entity? other = made.entity? other := by
    rw [entity?, entities_link, entity?]
  refine
    { wellFormed := h.wellFormed.link hkey hstored (h.notMem_ancestors hforest hparent)
      version_eq := ?_
      entity?_cases := fun other found hfound =>
        h.entity?_cases other found ((hentity other).symm.trans hfound)
      parent?_sub := ?_
      entity?_declared := fun other hother =>
        (hentity other).trans (h.entity?_declared other hother)
      parent?_declared := ?_ }
  · unfold Forest.link
    split <;> exact h.version_eq
  · intro other above habove
    rw [parent?_link] at habove
    split at habove
    · next heq => rw [heq, hparent, habove]
    · exact h.parent?_sub other above habove
  · intro other hother
    rw [parent?_link, h.parent?_declared other hother]
    split
    · next heq => rw [heq, hparent]
    · rfl

/-! #### Declarations -/

section

variable (hforest : forest.WellFormed) (henums : forest.NamesEnums)
include hforest henums

/-- An entity without a parent is declared. -/
theorem exists_add_root (h : forest.Restores declared made) {key : String} {e : Entity}
    (he : forest.entity? key = some e) (hroot : forest.parent? key = none) :
    ∃ next, made.add e.name none e.predefinedTypeEnum e.isAbstract = pure next ∧
      forest.Restores (key :: declared) next := by
  have hname : PsetCompiler.isEntityName e.name = true :=
    hforest.isEntityName _ (mem_of_lookup he)
  have henum := henums key e he
  have hfree : made.parent? key = none :=
    Option.eq_none_iff_forall_ne_some.mpr fun above habove => by
      rw [h.parent?_sub key above habove] at hroot
      cases hroot
  refine ⟨_, add_of_none hname e.predefinedTypeEnum e.isAbstract,
    (h.describe hforest he henum).cons ?_ ?_⟩
  · rw [h.entity?_describe hforest he henum, if_pos rfl, he]
  · rw [parent?_describe, hfree, hroot]

/-- An entity is declared with its parent, which is made before if it was not declared yet. -/
theorem exists_add_child (h : forest.Restores declared made) {key above : String} {e : Entity}
    (he : forest.entity? key = some e) (hparent : forest.parent? key = some above) :
    ∃ next,
      made.add e.name (some (forest.nameOf above)) e.predefinedTypeEnum e.isAbstract = pure next ∧
        forest.Restores (key :: declared) next := by
  obtain ⟨p, hp⟩ := exists_entity? (hforest.links_stored hparent).2
  have hmem : (key, e) ∈ forest.entities := mem_of_lookup he
  have hpmem : (above, p) ∈ forest.entities := mem_of_lookup hp
  have hkey : key = Text.foldCase e.name := hforest.key_eq _ hmem
  have habove : above = Text.foldCase p.name := hforest.key_eq _ hpmem
  have henum := henums key e he
  -- the parent is looked for first, and made under its full name if it is not there
  have hensured := h.ensure hforest hp
  have hmade := hensured.describe hforest he henum
  have hcycle := hmade.notMem_ancestors hforest hparent
  have hadd := add_of_some (hforest.isEntityName _ hmem) (hforest.isEntityName _ hpmem)
    e.predefinedTypeEnum e.isAbstract (by rwa [← hkey, ← habove])
  rw [← hkey, ← habove] at hadd
  rw [nameOf_of_entity? hp]
  refine ⟨_, hadd, (hmade.link hforest hparent ?_ ?_).cons ?_ ?_⟩
  · rw [keys_describe, hkey]
    exact mem_keys_ensure _ _
  · rw [keys_describe, habove]
    exact keys_subset_ensure _ _ (mem_keys_ensure _ _)
  · rw [entity?, entities_link, ← entity?, hensured.entity?_describe hforest he henum, if_pos rfl,
      he]
  · rw [parent?_link, if_pos rfl, hparent]

/-- **An entity is declared as it was written**, with nothing to report. -/
theorem exists_add (h : forest.Restores declared made) {key : String} {e : Entity}
    (he : forest.entity? key = some e) :
    let r := forest.recordOf key e
    ∃ next, made.add r.name r.parent r.predefinedTypeEnum r.isAbstract = pure next ∧
      forest.Restores (key :: declared) next := by
  dsimp only [recordOf]
  cases hparent : forest.parent? key with
  | none => exact h.exists_add_root hforest henums he hparent
  | some above => exact h.exists_add_child hforest henums he hparent

/-- Entities are declared as they were written, in whatever order. -/
theorem exists_addRecords (h : forest.Restores declared made) {entries : List (String × Entity)}
    (hentries : ∀ entry ∈ entries, forest.entity? entry.1 = some entry.2) :
    ∃ next,
      made.addRecords (entries.map fun (key, e) => forest.recordOf key e) = pure next ∧
        forest.Restores ((entries.map (·.1)).reverse ++ declared) next := by
  induction entries generalizing declared made with
  | nil => exact ⟨made, rfl, h⟩
  | cons entry entries ih =>
    rw [List.forall_mem_cons] at hentries
    obtain ⟨middle, hadd, hmiddle⟩ := h.exists_add hforest henums hentries.1
    obtain ⟨next, hrest, hnext⟩ := ih hmiddle hentries.2
    refine ⟨next, ?_, ?_⟩
    · rw [List.map_cons, addRecords, hadd, pure_bind, hrest]
    · rwa [List.map_cons, List.reverse_cons, List.append_assoc, List.singleton_append]

end

/-- When everything was declared, the forest is like the one that was written. -/
theorem alike (h : forest.Restores declared made) (hforest : forest.WellFormed)
    (hall : forest.entities.map (·.1) ⊆ declared) : forest.Alike made where
  entity?_eq := by
    intro key
    by_cases hkey : key ∈ forest.entities.map (·.1)
    · exact h.entity?_declared key (hall hkey)
    · have hnone : forest.entity? key = none := lookup_eq_none_iff_notMem_keys.mpr hkey
      rw [hnone, Option.eq_none_iff_forall_ne_some]
      intro e he
      obtain ⟨written, hwritten, -⟩ := h.entity?_cases key e he
      exact hkey (mem_keys_of_entity? hwritten)
  parent?_eq := by
    intro key
    by_cases hkey : key ∈ forest.entities.map (·.1)
    · exact h.parent?_declared key (hall hkey)
    · have hnone : forest.parent? key = none :=
        Option.eq_none_iff_forall_ne_some.mpr fun _ hparent =>
          hkey (hforest.links_stored hparent).1
      rw [hnone, Option.eq_none_iff_forall_ne_some]
      intro parent hparent
      rw [h.parent?_sub key parent hparent] at hnone
      cases hnone

end Restores

/-! ### The written form read -/

/-- What is read of the written form has the same entities and the same parents, and the
enumerations in order of their names; nothing is reported. -/
theorem IsDeclared.exists_ofDocument_alike (h : forest.IsDeclared) :
    ∃ other, ofDocument forest.document = pure other ∧ forest.Alike other ∧ other.WellFormed ∧
      other.version = forest.version ∧
      other.predefinedTypeEnums = Text.sortBy (·.1) forest.predefinedTypeEnums := by
  have hforest := h.wellFormed
  have hentries : ∀ entry ∈ forest.sorted, forest.entity? entry.1 = some entry.2 :=
    fun entry hentry => (lookup_eq_some_iff_mem hforest.nodup_keys).mpr
      ((Text.mem_sortBy _).mp hentry)
  obtain ⟨made, hadd, hmade⟩ :=
    (Restores.empty forest).exists_addRecords hforest h.namesEnums hentries
  have hall : forest.entities.map (·.1) ⊆ (forest.sorted.map (·.1)).reverse ++ [] := by
    rw [List.append_nil]
    intro key hkey
    exact List.mem_reverse.mpr (((Text.perm_sortBy _ _).map _).mem_iff.mpr hkey)
  have halike := hmade.alike hforest hall
  have hread : addRecords { version := forest.document.version } forest.document.entities =
      pure made := hadd
  refine ⟨{ made with predefinedTypeEnums := forest.document.predefinedTypeEnums }, ?_,
    ⟨halike.entity?_eq, halike.parent?_eq⟩, hmade.wellFormed.withEnums _, hmade.version_eq, rfl⟩
  rw [ofDocument, ofRecords, hread, pure_bind]

/-- **The forest of the written form is alike, and nothing is reported.** -/
theorem IsDeclared.exists_ofDocument (h : forest.IsDeclared) :
    ∃ other, ofDocument forest.document = pure other ∧ forest.AnswersAlike other := by
  obtain ⟨other, hread, halike, hother, hversion, henums⟩ := h.exists_ofDocument_alike
  have hsorted : Text.sortBy (·.1) (Text.sortBy (·.1) forest.predefinedTypeEnums) =
      Text.sortBy (·.1) forest.predefinedTypeEnums :=
    (Text.sortBy_eq_of_perm _ h.nodup_enums (Text.perm_sortBy _ _).symm).symm
  exact ⟨other, hread, halike.answersAlike h.wellFormed hother hversion (by rw [henums, hsorted])⟩

end Forest

end PsetCompiler
