import PsetCompiler.Enumeration.Collect
import PsetCompiler.Initializer.Entry
import PsetCompiler.Proofs.Outcome
import PsetCompiler.Proofs.Parameter.Merge

/-!
# Building the initializer

The initializer is built from the leaves of a catalog, and the only leaf for which there is no entry
is a complex one; so it is built for every flat catalog.  Every block of it is the block of some
definition in the catalog, under the version of that definition, and what an entry of the block
refers to is the enumeration of a leaf of that definition.

## Main definitions

* `Property.enumReference?`, `entryName` — what an entry refers to, and its name.
* `AreEntriesOf` — entries of leaves, in order.
* `InitBlock.IsOf` — a block is the block of a definition.

## Main results

* `of_buildEntry_eq_ok` — what is known of an entry.
* `exists_block_of_lookup`, `exists_buildVersionBlock` — the blocks of definitions.
* `exists_buildInitMethods` — **the initializer of a flat catalog.**
-/

namespace PsetCompiler

/-- The reference to the enumeration of a property, if the property has one. -/
def Property.enumReference? (space version : String) (p : Property) : Option String :=
  (p.enumUse? version).map fun use => enumReference space version use.name

/-- The name of an entry behind the one of its set; a part that is empty is left out. -/
def entryName (pset : PropertySet) (parent : String) (p : Property) : String :=
  pset.name ++ "." ++ if parent = "" then p.name else parent ++ "." ++ p.name

/-- A leaf that is not complex has an entry. -/
theorem exists_buildEntry (pset : PropertySet) {p : Property} (h : p.isComplex = false)
    (version parent space : String) :
    ∃ entry, (buildEntry pset p version parent space).run.value = .ok entry := by
  obtain ⟨name, ifdGuid, aliases, valueType⟩ := p
  unfold buildEntry
  dsimp only
  rcases valueType with _ | (_ | _ | _ | _ | _ | _ | _)
  case some.complex => simp [Property.isComplex, ValueType.isComplex] at h
  -- A leaf without a type is reported, and its type is inferred, before there is an entry.
  case none => exact ⟨_, Attempt.value_bind_liftM _ _⟩
  all_goals exact ⟨_, Attempt.value_pure _⟩

/-- The entry of a leaf has the name of the leaf, and refers to the enumeration of the leaf. -/
theorem of_buildEntry_eq_ok {pset : PropertySet} {p : Property} {version parent space : String}
    {entry : InitEntry} (h : (buildEntry pset p version parent space).run.value = .ok entry) :
    entry.paramName = entryName pset parent p ∧
      entry.enumType = p.enumReference? space version := by
  obtain ⟨name, ifdGuid, aliases, valueType⟩ := p
  unfold buildEntry at h
  dsimp only at h
  rcases valueType with _ | (_ | _ | _ | _ | _ | _ | _)
  case none =>
    obtain ⟨dataType, -, h⟩ := Attempt.value_bind_eq_ok_iff.mp h
    rw [Attempt.value_pure] at h
    obtain rfl := Except.ok.inj h
    exact ⟨rfl, rfl⟩
  case some.complex => exact nomatch h
  all_goals
    rw [Attempt.value_pure] at h
    obtain rfl := Except.ok.inj h
    exact ⟨rfl, rfl⟩

/-- A block is the block of a definition: it has the version of the definition, and its entries
refer to the enumerations of leaves of the definition. -/
structure InitBlock.IsOf (space : String) (definition : VersionedSet) (block : InitBlock) :
    Prop where
  version : block.version = definition.definition.emitVersion definition.release
  references : ∀ entry ∈ block.entries, ∀ reference ∈ entry.enumType,
    ∃ leaf ∈ definition.definition.leaves,
      leaf.2.enumReference? space block.version = some reference

/-- The entries of leaves, one for each. -/
def AreEntriesOf (pset : PropertySet) (version space : String)
    (leaves : List (Option String × Property)) (entries : List InitEntry) : Prop :=
  List.Forall₂
    (fun leaf entry =>
      (buildEntry pset leaf.2 version (leaf.1.getD "") space).run.value = .ok entry)
    leaves entries

/-- The entries of a property are those of its leaves, if none of these is complex. -/
theorem exists_buildEntries (pset : PropertySet) {p : Property}
    (h : ∀ leaf ∈ p.leaves, leaf.2.isComplex = false) (version space : String) :
    ∃ entries, (buildEntries pset version space p).run.value = .ok entries ∧
      AreEntriesOf pset version space p.leaves entries := by
  rw [Property.leaves] at h
  unfold AreEntriesOf Property.leaves
  rw [buildEntries]
  split at h
  · next hcomplex =>
    rw [if_pos hcomplex, if_pos hcomplex]
    simp only [List.forall₂_map_left_iff]
    refine Attempt.exists_value_mapM_forall₂ fun m hm => ?_
    obtain ⟨entry, hentry⟩ := exists_buildEntry pset (h _ (List.mem_map_of_mem hm)) version p.name
      space
    exact ⟨entry, hentry, hentry⟩
  · next hsimple =>
    rw [if_neg hsimple, if_neg hsimple]
    obtain ⟨entry, hentry⟩ := exists_buildEntry pset (h _ List.mem_cons_self) version "" space
    exact ⟨[entry], Attempt.value_bind_ok hentry _, .cons hentry .nil⟩

/-- What a version that can be exported makes of a definition without complex leaves: a block with
one entry for each leaf. -/
theorem exists_block_of_lookup {pset : PropertySet}
    (h : ∀ leaf ∈ pset.leaves, leaf.2.isComplex = false) {release exportFlag : String}
    (hflag : exportFlags.lookup (pset.emitVersion release) = some exportFlag) (space : String) :
    ∃ block, (buildVersionBlock pset release space).run.value = .ok (some block) ∧
      block.version = pset.emitVersion release ∧
      AreEntriesOf pset block.version space pset.leaves block.entries := by
  obtain ⟨entries, hentries, hpairs⟩ := Attempt.exists_value_mapM_forall₂
    fun p (hp : p ∈ pset.properties) => exists_buildEntries pset
      (fun leaf hleaf => h leaf (List.mem_flatMap.mpr ⟨p, hp, hleaf⟩)) (pset.emitVersion release)
      space
  unfold buildVersionBlock
  dsimp only
  rw [hflag]
  exact ⟨_, Attempt.value_bind_ok hentries _, rfl, PropertySet.forall₂_leaves hpairs⟩

theorem exists_buildVersionBlock {pset : PropertySet}
    (h : ∀ leaf ∈ pset.leaves, leaf.2.isComplex = false) (release space : String) :
    ∃ block?, (buildVersionBlock pset release space).run.value = .ok block? ∧
      ∀ block ∈ block?, block.IsOf space ⟨release, pset⟩ := by
  cases hflag : exportFlags.lookup (pset.emitVersion release) with
  | none =>
    refine ⟨none, ?_, nofun⟩
    unfold buildVersionBlock
    dsimp only
    rw [hflag]
    rfl
  | some exportFlag =>
    obtain ⟨block, hblock, hversion, hpairs⟩ := exists_block_of_lookup h hflag space
    refine ⟨some block, hblock, ?_⟩
    rintro _ ⟨⟩
    refine ⟨hversion, fun entry hentry reference href => ?_⟩
    obtain ⟨leaf, hleaf, hbuilt⟩ := exists_left_of_mem hpairs hentry
    refine ⟨leaf, hleaf, ?_⟩
    rw [← (of_buildEntry_eq_ok hbuilt).2, href]

theorem exists_buildInitMethod {definitions : List VersionedSet}
    (h : ∀ d ∈ definitions, ∀ leaf ∈ d.definition.leaves, leaf.2.isComplex = false)
    (space name : String) :
    ∃ method?, (buildInitMethod space name definitions).run.value = .ok method? ∧
      ∀ method ∈ method?, ∀ block ∈ method.blocks, ∃ d ∈ definitions, block.IsOf space d := by
  obtain ⟨blocks, hblocks, hmem⟩ := Attempt.exists_value_mapM
    fun d hd => exists_buildVersionBlock (h d hd) d.release space
  unfold buildInitMethod
  rw [Attempt.value_bind_ok hblocks]
  dsimp only
  split
  · exact ⟨none, rfl, nofun⟩
  · refine ⟨_, rfl, ?_⟩
    intro method hmethod block hblock
    obtain rfl := Option.mem_some_iff.mp hmethod
    obtain ⟨block?, hblock?, heq⟩ := List.mem_filterMap.mp hblock
    obtain ⟨d, hd, hof⟩ := hmem block? hblock?
    exact ⟨d, hd, hof block heq⟩

/-- The initializer of a flat catalog is built, and every block of it is the block of a definition
in the catalog. -/
theorem exists_buildInitMethods {catalog : Catalog} (hflat : catalog.IsFlat) (space : String) :
    ∃ methods, (buildInitMethods catalog space).run.value = .ok methods ∧
      ∀ method ∈ methods, ∀ block ∈ method.blocks, ∃ d ∈ catalog.entries,
        block.IsOf space d := by
  have hentries : ∀ group ∈ catalog.sorted, ∀ d ∈ group.2, d ∈ catalog.entries :=
    fun group hgroup d hd => List.mem_flatMap.mpr ⟨group, hgroup, hd⟩
  obtain ⟨methods, hmethods, hmem⟩ := Attempt.exists_value_mapM fun group hgroup =>
    exists_buildInitMethod
      (fun d hd leaf hleaf => hflat.leaf (hentries group hgroup d hd) hleaf) space group.1
  refine ⟨_, Attempt.value_bind_ok hmethods _, ?_⟩
  intro method hmethod block hblock
  obtain ⟨method?, hmethod?, heq⟩ := List.mem_filterMap.mp hmethod
  obtain ⟨group, hgroup, hof⟩ := hmem method? hmethod?
  obtain ⟨d, hd, hof⟩ := hof method heq block hblock
  exact ⟨d, hentries group hgroup d hd, hof⟩

end PsetCompiler
