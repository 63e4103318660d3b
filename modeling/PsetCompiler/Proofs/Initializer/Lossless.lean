import PsetCompiler.Proofs.Initializer.Built
import PsetCompiler.Proofs.Text.Order

/-!
# Nothing is lost or doubled in the initializer

The methods, their blocks and the entries of these are built in loops that leave things out: the
definitions whose version cannot be exported, and the sets that have no other definitions.  What is
left out is reported, and what is not left out has its place in the order in which it came.

## Main definitions

* `guesses`, `VersionedSet.notes`, `groupNotes` — what building each part reports.
* `InitBlock.Builds`, `InitMethod.Builds` — a block is built of a definition, a method of a set.
* `Diagnostic.leftOut?` — the set that a report leaves out.

## Main results

* `log_buildInitMethods` — all that is reported.
* `forall₂_builds_buildInitMethods` — the methods, one for each set that can be exported.
* `buildInitMethods_lossless` — **nothing is lost, and nothing is doubled.**
-/

namespace PsetCompiler

/-! ### What is reported -/

/-- The guess that building the entry of a leaf reports, if the leaf has no type. -/
def guesses (pset : PropertySet) (version : String) (leaf : Option String × Property) :
    List Diagnostic :=
  match leaf.2.valueType with
  | none =>
    let parent := leaf.1.getD ""
    let name := if parent = "" then leaf.2.name else parent ++ "." ++ leaf.2.name
    [.inferredType (pset.name ++ "(" ++ version ++ ")." ++ name) (guessDataType leaf.2.name)]
  | some _ => []

/-- What building the block of a definition reports: the guesses for its leaves, or that its version
cannot be exported. -/
def VersionedSet.notes (d : VersionedSet) : List Diagnostic :=
  let version := d.definition.emitVersion d.release
  if d.isExported then d.definition.leaves.flatMap (guesses d.definition version)
  else [.unknownVersion d.definition.name version]

/-- What building the method of a set reports: what its definitions do, and then that there is no
method if none of them can be exported. -/
def groupNotes (group : String × List VersionedSet) : List Diagnostic :=
  group.2.flatMap VersionedSet.notes ++
    if group.2.any (·.isExported) then [] else [.nothingExported group.1]

theorem log_buildEntry (pset : PropertySet) (leaf : Option String × Property)
    (version space : String) :
    (buildEntry pset leaf.2 version (leaf.1.getD "") space).run.log =
      guesses pset version leaf := by
  obtain ⟨parent, name, ifdGuid, aliases, valueType⟩ := leaf
  unfold buildEntry guesses
  dsimp only
  rcases valueType with _ | (_ | _ | _ | _ | _ | _ | _)
  case none =>
    rw [Attempt.log_bind_liftM, log_inferDataType _ (by simp [String.append_eq_empty_iff])]
    exact List.append_nil _
  all_goals rfl

theorem log_buildEntries {pset : PropertySet} {version space : String} {p : Property}
    {entries : List InitEntry} (h : (buildEntries pset version space p).run.value = .ok entries) :
    (buildEntries pset version space p).run.log = p.leaves.flatMap (guesses pset version) := by
  rw [buildEntries] at h ⊢
  rw [Property.leaves]
  split at h
  · next hcomplex =>
    -- the leaves of a complex property are its members under its name
    rw [if_pos hcomplex, if_pos hcomplex, List.flatMap_map]
    exact Attempt.log_mapM _ h fun m _ _ _ => log_buildEntry pset (some p.name, m) version space
  · next hsimple =>
    rw [if_neg hsimple, if_neg hsimple, List.flatMap_singleton]
    obtain ⟨entry, hentry, -⟩ := Attempt.value_bind_eq_ok_iff.mp h
    rw [Attempt.log_bind_ok hentry, ← log_buildEntry pset (none, p) version space]
    exact List.append_nil _

theorem log_buildVersionBlock {d : VersionedSet} {space : String} {block? : Option InitBlock}
    (h : (buildVersionBlock d.definition d.release space).run.value = .ok block?) :
    (buildVersionBlock d.definition d.release space).run.log = d.notes := by
  unfold buildVersionBlock at h ⊢
  unfold VersionedSet.notes VersionedSet.isExported
  dsimp only at h ⊢
  cases hflag : exportFlags.lookup (d.definition.emitVersion d.release) with
  | none => rfl
  | some exportFlag =>
    rw [hflag] at h
    obtain ⟨entries, hentries, -⟩ := Attempt.value_bind_eq_ok_iff.mp h
    rw [Option.isSome_some, if_pos rfl, PropertySet.leaves, List.flatMap_assoc,
      Attempt.log_bind_ok hentries, Attempt.log_mapM _ hentries fun _ _ _ => log_buildEntries]
    exact List.append_nil _

theorem log_buildInitMethod {space name : String} {definitions : List VersionedSet}
    {method? : Option InitMethod}
    (h : (buildInitMethod space name definitions).run.value = .ok method?) :
    (buildInitMethod space name definitions).run.log = groupNotes (name, definitions) := by
  unfold buildInitMethod at h ⊢
  obtain ⟨blocks, hblocks, -⟩ := Attempt.value_bind_eq_ok_iff.mp h
  rw [Attempt.log_bind_ok hblocks,
    Attempt.log_mapM VersionedSet.notes hblocks fun _ _ _ => log_buildVersionBlock,
    groupNotes]
  dsimp only
  rw [isEmpty_of_buildVersionBlock (Attempt.forall₂_of_value_mapM hblocks)]
  cases definitions.any (·.isExported) with
  | true => rfl
  | false => rfl

/-- All that building the methods of a catalog reports. -/
theorem log_buildInitMethods {catalog : Catalog} {space : String} {methods : List InitMethod}
    (h : (buildInitMethods catalog space).run.value = .ok methods) :
    (buildInitMethods catalog space).run.log = catalog.sorted.flatMap groupNotes := by
  unfold buildInitMethods at h ⊢
  obtain ⟨built, hbuilt, -⟩ := Attempt.value_bind_eq_ok_iff.mp h
  rw [Attempt.log_bind_ok hbuilt,
    Attempt.log_mapM groupNotes hbuilt fun _ _ _ => log_buildInitMethod]
  exact List.append_nil _

/-! ### What is built -/

/-- A block is the one of a definition: for its version, with one entry for each of its leaves and
one entity type for each of its classes. -/
structure InitBlock.Builds (space : String) (d : VersionedSet) (block : InitBlock) : Prop where
  version_eq : block.version = d.definition.emitVersion d.release
  exportFlag : exportFlags.lookup (d.definition.emitVersion d.release) = some block.exportFlag
  entries : AreEntriesOf d.definition (d.definition.emitVersion d.release) space
    d.definition.leaves block.entries
  entityTypes : block.entityTypes =
    d.definition.applicableClasses.map fun name => if name = "" then proxyEntity else name

/-- A method is the one of a set: it has one block for each definition that can be exported. -/
structure InitMethod.Builds (space : String) (group : String × List VersionedSet)
    (method : InitMethod) : Prop where
  eq_emptyMethod : method = { emptyMethod group.1 with blocks := method.blocks }
  blocks : List.Forall₂ (InitBlock.Builds space) (group.2.filter (·.isExported)) method.blocks

theorem builds_of_buildInitMethod {space name : String} {definitions : List VersionedSet}
    {method? : Option InitMethod}
    (h : (buildInitMethod space name definitions).run.value = .ok method?) :
    (definitions.any (·.isExported) = false ∧ method? = none) ∨
      definitions.any (·.isExported) = true ∧
        ∃ method, method? = some method ∧ method.Builds space (name, definitions) := by
  obtain ⟨blocks, hblocks, rfl⟩ := of_buildInitMethod_eq_ok h
  have hbuilds : List.Forall₂ (InitBlock.Builds space) (definitions.filter (·.isExported))
      (blocks.filterMap id) := by
    refine forall₂_filterMap_of_forall₂ (hblocks.imp fun d block? hblock => ?_)
    refine (of_buildVersionBlock_eq_ok hblock).imp_right ?_
    rintro ⟨hexported, exportFlag, entries, hflag, hentries, rfl⟩
    refine ⟨hexported, _, rfl, ?_⟩
    exact ⟨rfl, hflag, hentries, rfl⟩
  cases hany : definitions.any (·.isExported) with
  | false => exact .inl ⟨rfl, rfl⟩
  | true => exact .inr ⟨rfl, { emptyMethod name with blocks := blocks.filterMap id }, rfl, rfl, hbuilds⟩

/-- The methods of a catalog are those of the sets of which a definition can be exported, in order
of name. -/
theorem forall₂_builds_buildInitMethods {catalog : Catalog} {space : String}
    {methods : List InitMethod} (h : (buildInitMethods catalog space).run.value = .ok methods) :
    List.Forall₂ (InitMethod.Builds space)
      (catalog.sorted.filter fun group => group.2.any (·.isExported)) methods := by
  obtain ⟨built, hbuilt, rfl⟩ := of_buildInitMethods_eq_ok h
  exact forall₂_filterMap_of_forall₂ (hbuilt.imp fun group method? => builds_of_buildInitMethod)

theorem map_name_eq_of_builds {space : String} {groups : List (String × List VersionedSet)}
    {methods : List InitMethod} (h : List.Forall₂ (InitMethod.Builds space) groups methods) :
    methods.map (·.name) = groups.map (·.1) := by
  induction h with
  | nil => rfl
  | cons hbuilds _ ih =>
    rw [List.map_cons, List.map_cons, ih]
    exact congrArg (· :: _) (congrArg InitMethod.name hbuilds.eq_emptyMethod)

/-! ### What is left out -/

/-- The report that the version of a definition cannot be exported. -/
def VersionedSet.unknown (d : VersionedSet) : Diagnostic :=
  .unknownVersion d.definition.name (d.definition.emitVersion d.release)

/-- The set that a report leaves out. -/
def Diagnostic.leftOut? : Diagnostic → Option String
  | .nothingExported name => some name
  | _ => none

/-- Guesses are warnings, and leave nothing out. -/
theorem of_mem_guesses {pset : PropertySet} {version : String} {leaf : Option String × Property}
    {report : Diagnostic} (h : report ∈ guesses pset version leaf) :
    report.level = .warning ∧ report.leftOut? = none := by
  unfold guesses at h
  split at h
  · obtain rfl := List.mem_singleton.mp h
    exact ⟨rfl, rfl⟩
  · cases h

/-- The errors among the reports on definitions are one for each that cannot be exported. -/
theorem filter_error_flatMap_notes (definitions : List VersionedSet) :
    (definitions.flatMap VersionedSet.notes).filter (·.level = .error) =
      (definitions.filter (!·.isExported)).map VersionedSet.unknown := by
  induction definitions with
  | nil => rfl
  | cons d definitions ih =>
    rw [List.flatMap_cons, List.filter_append, ih, VersionedSet.notes]
    cases hd : d.isExported with
    | true =>
      -- the leaves of a definition that is exported are no errors
      rw [List.filter_cons_of_neg (by simp [hd]), if_pos rfl, List.filter_eq_nil_iff.mpr,
        List.nil_append]
      intro report hreport
      obtain ⟨leaf, -, hreport⟩ := List.mem_flatMap.mp hreport
      rw [(of_mem_guesses hreport).1]
      decide
    | false =>
      rw [List.filter_cons_of_pos (by simp [hd]), List.map_cons]
      rfl

theorem filterMap_leftOut?_flatMap_notes (definitions : List VersionedSet) :
    (definitions.flatMap VersionedSet.notes).filterMap Diagnostic.leftOut? = [] := by
  rw [List.filterMap_eq_nil_iff]
  intro report hreport
  obtain ⟨d, -, hreport⟩ := List.mem_flatMap.mp hreport
  unfold VersionedSet.notes at hreport
  dsimp only at hreport
  split at hreport
  · obtain ⟨leaf, -, hreport⟩ := List.mem_flatMap.mp hreport
    exact (of_mem_guesses hreport).2
  · obtain rfl := List.mem_singleton.mp hreport
    rfl

theorem filter_error_flatMap_groupNotes (groups : List (String × List VersionedSet)) :
    (groups.flatMap groupNotes).filter (·.level = .error) =
      ((groups.flatMap (·.2)).filter (!·.isExported)).map VersionedSet.unknown := by
  rw [List.filter_flatMap, List.filter_flatMap, List.map_flatMap]
  refine List.flatMap_congr fun group _ => ?_
  rw [groupNotes, List.filter_append, filter_error_flatMap_notes]
  cases group.2.any (·.isExported) with
  | true => exact List.append_nil _
  | false => exact List.append_nil _

theorem filterMap_leftOut?_flatMap_groupNotes (groups : List (String × List VersionedSet)) :
    (groups.flatMap groupNotes).filterMap Diagnostic.leftOut? =
      (groups.filter fun group => !group.2.any (·.isExported)).map (·.1) := by
  induction groups with
  | nil => rfl
  | cons group groups ih =>
    rw [List.flatMap_cons, List.filterMap_append, ih, groupNotes, List.filterMap_append,
      filterMap_leftOut?_flatMap_notes, List.nil_append]
    cases hany : group.2.any (·.isExported) with
    | true =>
      rw [List.filter_cons_of_neg (by simp [hany])]
      rfl
    | false =>
      rw [List.filter_cons_of_pos (by simp [hany])]
      rfl

/-! ### Nothing is lost or doubled -/

/-- Methods and reports account for everything in a catalog, and for nothing twice. -/
structure Catalog.Accounts (catalog : Catalog) (space : String) (methods : List InitMethod)
    (log : List Diagnostic) : Prop where
  /-- The methods stand in order of name, and no two have the same one; -/
  pairwise_name : (methods.map (·.name)).Pairwise (· < ·)
  /-- they are those of the sets of which a definition can be exported. -/
  mem_name_iff : ∀ name, name ∈ methods.map (·.name) ↔
    ∃ definitions, (name, definitions) ∈ catalog.definitions ∧ ∃ d ∈ definitions, d.isExported
  /-- Each one is built of the definitions of its set. -/
  builds : ∀ method ∈ methods, ∃ definitions, (method.name, definitions) ∈ catalog.definitions ∧
    method.Builds space (method.name, definitions)
  /-- Each of the other definitions is an error in the log, -/
  errors : log.filter (·.level = .error) =
    (catalog.entries.filter (!·.isExported)).map VersionedSet.unknown
  /-- and each of the sets without a method is told once. -/
  leftOut : log.filterMap Diagnostic.leftOut? =
    (catalog.sorted.filter fun group => !group.2.any (·.isExported)).map (·.1)

/-- **Nothing is lost, and nothing is doubled.** Whatever a flat catalog holds, building its methods
gives a value, and this and the reports account for everything. -/
theorem buildInitMethods_lossless {catalog : Catalog}
    (hkeys : (catalog.definitions.map (·.1)).Nodup) (hflat : catalog.IsFlat) (space : String) :
    ∃ methods, (buildInitMethods catalog space).run.value = .ok methods ∧
      catalog.Accounts space methods (buildInitMethods catalog space).run.log := by
  obtain ⟨methods, hmethods, -⟩ := exists_buildInitMethods hflat space
  have hbuilds := forall₂_builds_buildInitMethods hmethods
  have hnames := map_name_eq_of_builds hbuilds
  have hlog := log_buildInitMethods hmethods
  refine ⟨methods, hmethods,
    { pairwise_name := ?_
      mem_name_iff := ?_
      builds := ?_
      errors := ?_
      leftOut := ?_ }⟩
  · rw [hnames, List.pairwise_map]
    exact (Text.pairwise_lt_sortBy _ hkeys).filter _
  · intro name
    rw [hnames, List.mem_map]
    constructor
    · rintro ⟨⟨_, definitions⟩, hgroup, rfl⟩
      obtain ⟨hmem, hany⟩ := List.mem_filter.mp hgroup
      exact ⟨definitions, (Text.mem_sortBy _).mp hmem, List.any_eq_true.mp hany⟩
    · rintro ⟨definitions, hmem, hany⟩
      exact ⟨(name, definitions), List.mem_filter.mpr
        ⟨(Text.mem_sortBy _).mpr hmem, List.any_eq_true.mpr hany⟩, rfl⟩
  · intro method hmethod
    obtain ⟨⟨name, definitions⟩, hgroup, hmethod⟩ := exists_left_of_mem hbuilds hmethod
    obtain rfl : method.name = name := congrArg InitMethod.name hmethod.eq_emptyMethod
    exact ⟨definitions, (Text.mem_sortBy _).mp (List.mem_of_mem_filter hgroup), hmethod⟩
  · rw [hlog]
    exact filter_error_flatMap_groupNotes catalog.sorted
  · rw [hlog]
    exact filterMap_leftOut?_flatMap_groupNotes catalog.sorted

/-- A set whose definitions are of two versions, of which one can be exported, and a set of which
none can. -/
def mixedCatalog : Catalog where
  definitions :=
    let wall (version : String) : PropertySet :=
      { name := "Pset_WallCommon", version, release := "IFC4", applicableClasses := ["IfcWall", ""]
        properties :=
          [{ name := "Size", valueType := some (.complex "CP_Size" [{ name := "Width" }]) },
            { name := "Status" }] }
    [("Pset_WallCommon", [⟨"IFC4", wall "IFC4"⟩, ⟨"IFC2X", wall "IFC2X"⟩]),
      ("Pset_Old", [⟨"IFC2X", { name := "Pset_Old", version := "IFC2X", release := "IFC2X" }⟩])]

theorem buildInitMethods_lossless_mixed :
    (mixedCatalog.definitions.map (·.1)).Nodup ∧ mixedCatalog.IsFlat ∧
      ∃ methods, (buildInitMethods mixedCatalog "Enums").run.value = .ok methods ∧
        mixedCatalog.Accounts "Enums" methods (buildInitMethods mixedCatalog "Enums").run.log ∧
        (buildInitMethods mixedCatalog "Enums").run.log.filterMap Diagnostic.leftOut? =
          ["Pset_Old"] := by
  have hkeys : (mixedCatalog.definitions.map (·.1)).Nodup := by decide +kernel
  have hperm : mixedCatalog.sorted.Perm mixedCatalog.definitions := Text.perm_sortBy _ _
  have hflat : mixedCatalog.IsFlat := by
    have hsets : ∀ entry ∈ mixedCatalog.definitions.flatMap (·.2),
        ∀ p ∈ entry.definition.properties, ∀ m ∈ p.members, m.isComplex = false := by decide
    exact fun entry hentry => hsets entry ((hperm.flatMap_right _).mem_iff.mp hentry)
  obtain ⟨methods, hmethods, haccounts⟩ := buildInitMethods_lossless hkeys hflat "Enums"
  have hleft := haccounts.leftOut
  have hnames := (hperm.filter fun group => !group.2.any (·.isExported)).map (·.1)
  refine ⟨hkeys, hflat, methods, hmethods, haccounts, ?_⟩
  rw [hleft]
  exact List.perm_singleton.mp (hnames.trans (by decide +kernel))

end PsetCompiler
