import PsetCompiler.Proofs.Initializer.Entry

/-!
# What the initializer is built of

Whether there is a block for a definition depends on its version alone, and whether there is a method
for a set on the versions of its definitions.  Whatever is built is made of the leaves, one entry for
each of them, and in their order.

## Main definitions

* `VersionedSet.isExported` — the version of a definition can be exported.

## Main results

* `of_buildVersionBlock_eq_ok` — the block of a definition.
* `of_buildInitMethod_eq_ok`, `of_buildInitMethods_eq_ok` — the methods of a set and of a catalog.
-/

namespace PsetCompiler

/-- The version of a definition can be exported. -/
def VersionedSet.isExported (d : VersionedSet) : Bool :=
  (exportFlags.lookup (d.definition.emitVersion d.release)).isSome

/-- What is built of a property is one entry for each of its leaves. -/
theorem areEntriesOf_buildEntries {pset : PropertySet} {version space : String} {p : Property}
    {entries : List InitEntry}
    (h : (buildEntries pset version space p).run.value = .ok entries) :
    AreEntriesOf pset version space p.leaves entries := by
  unfold AreEntriesOf Property.leaves
  rw [buildEntries] at h
  split at h
  · next hcomplex =>
    rw [if_pos hcomplex]
    simp only [List.forall₂_map_left_iff]
    exact Attempt.forall₂_of_value_mapM h
  · next hsimple =>
    rw [if_neg hsimple]
    obtain ⟨entry, hentry, h⟩ := Attempt.value_bind_eq_ok_iff.mp h
    obtain rfl := Except.ok.inj h
    exact .cons hentry .nil

/-- What is built of a definition: a block with the entries of its leaves if its version can be
exported, else nothing. -/
theorem of_buildVersionBlock_eq_ok {d : VersionedSet} {space : String} {block? : Option InitBlock}
    (h : (buildVersionBlock d.definition d.release space).run.value = .ok block?) :
    (d.isExported = false ∧ block? = none) ∨
      d.isExported = true ∧ ∃ exportFlag entries,
        exportFlags.lookup (d.definition.emitVersion d.release) = some exportFlag ∧
        AreEntriesOf d.definition (d.definition.emitVersion d.release) space d.definition.leaves
          entries ∧
        block? = some
          { version := d.definition.emitVersion d.release, exportFlag, entries
            entityTypes := d.definition.applicableClasses.map fun name =>
              if name = "" then proxyEntity else name } := by
  unfold buildVersionBlock at h
  dsimp only at h
  cases hflag : exportFlags.lookup (d.definition.emitVersion d.release) with
  | none =>
    rw [hflag] at h
    obtain ⟨-, -, h⟩ := Attempt.value_bind_eq_ok_iff.mp h
    refine .inl ⟨?_, (Except.ok.inj h).symm⟩
    rw [VersionedSet.isExported, hflag]
    rfl
  | some exportFlag =>
    rw [hflag] at h
    obtain ⟨entries, hentries, h⟩ := Attempt.value_bind_eq_ok_iff.mp h
    refine .inr ⟨?_, exportFlag, entries.flatten, rfl, ?_, (Except.ok.inj h).symm⟩
    · rw [VersionedSet.isExported, hflag]
      rfl
    · exact PropertySet.forall₂_leaves ((Attempt.forall₂_of_value_mapM hentries).imp fun p entries =>
        areEntriesOf_buildEntries)

/-- There are no blocks exactly if no definition can be exported. -/
theorem isEmpty_of_buildVersionBlock {space : String} {definitions : List VersionedSet}
    {blocks : List (Option InitBlock)}
    (h : List.Forall₂ (fun d block? =>
      (buildVersionBlock d.definition d.release space).run.value = .ok block?) definitions blocks) :
    (blocks.filterMap id).isEmpty = !definitions.any (·.isExported) := by
  refine isEmpty_filterMap_of_forall₂ (h.imp fun d block? hblock => ?_)
  obtain ⟨hnot, rfl⟩ | ⟨hexported, exportFlag, entries, -, -, rfl⟩ :=
    of_buildVersionBlock_eq_ok hblock
  · exact hnot.symm
  · exact hexported.symm

/-- What is built of a set: a method with the blocks of its definitions if one of these can be
exported, else nothing. -/
theorem of_buildInitMethod_eq_ok {space name : String} {definitions : List VersionedSet}
    {method? : Option InitMethod}
    (h : (buildInitMethod space name definitions).run.value = .ok method?) :
    ∃ blocks,
      List.Forall₂ (fun d block? =>
        (buildVersionBlock d.definition d.release space).run.value = .ok block?)
        definitions blocks ∧
      method? = if definitions.any (·.isExported) then
        some { emptyMethod name with blocks := blocks.filterMap id } else none := by
  obtain ⟨blocks, hblocks, h⟩ := Attempt.value_bind_eq_ok_iff.mp h
  have hpairs := Attempt.forall₂_of_value_mapM hblocks
  refine ⟨blocks, hpairs, ?_⟩
  dsimp only at h
  rw [isEmpty_of_buildVersionBlock hpairs] at h
  cases hany : definitions.any (·.isExported) with
  | true =>
    rw [hany, Bool.not_true, if_neg Bool.false_ne_true] at h
    exact (Except.ok.inj h).symm
  | false =>
    rw [hany, Bool.not_false, if_pos rfl] at h
    obtain ⟨-, -, h⟩ := Attempt.value_bind_eq_ok_iff.mp h
    exact (Except.ok.inj h).symm

/-- What is built of a catalog: the methods of its sets, in order of name. -/
theorem of_buildInitMethods_eq_ok {catalog : Catalog} {space : String} {methods : List InitMethod}
    (h : (buildInitMethods catalog space).run.value = .ok methods) :
    ∃ built,
      List.Forall₂ (fun group method? =>
        (buildInitMethod space group.1 group.2).run.value = .ok method?) catalog.sorted built ∧
      methods = built.filterMap id := by
  obtain ⟨built, hbuilt, h⟩ := Attempt.value_bind_eq_ok_iff.mp h
  exact ⟨built, Attempt.forall₂_of_value_mapM hbuilt, (Except.ok.inj h).symm⟩

end PsetCompiler
