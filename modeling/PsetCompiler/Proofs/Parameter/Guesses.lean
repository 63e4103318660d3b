import PsetCompiler.Proofs.Initializer.Lossless
import PsetCompiler.Proofs.Logs
import PsetCompiler.Proofs.Parameter.Merge

/-!
# Guesses

The data type of a property without one is guessed twice: when its parameter is made, and when its
entry of the initializer is.  The two ways lead over different walks through a catalog, but both
guess from the name of the property alone.  Merging a catalog warns of nothing but its guesses, one
for each untyped property that becomes a parameter; building the initializer reports one for each
untyped leaf that it has an entry for.

## Main definitions

* `Property.isUntyped` — a property has no type.
* `Occurrence.guess`, `VersionedSet.guess` — the reports of the two guesses.
* `GuessedAlike` — one data type is guessed for the parameter and for the entry of a leaf.

## Main results

* `warnings_mergeCatalog` — what merging a catalog warns of.
* `guesses_buildInitMethods` — the guesses that building the initializer reports.
* `guesses_agree` — **every guess is reported once, and both guesses are alike.**
-/

namespace PsetCompiler

/-- A property has no type. -/
def Property.isUntyped (p : Property) : Bool :=
  p.valueType.isNone

/-- A report of a guess. -/
def Diagnostic.isGuess : Diagnostic → Bool
  | .inferredType .. => true
  | _ => false

/-- The report of the guess for the parameter of an occurrence. -/
def Occurrence.guess (o : Occurrence) : Diagnostic :=
  .inferredType (o.1 ++ "." ++ o.2.2.name) (guessDataType o.2.2.name)

/-- Where the data type of the entry of a leaf is guessed. -/
def VersionedSet.entryPlace (d : VersionedSet) (leaf : Option String × Property) : String :=
  let parent := leaf.1.getD ""
  let name := if parent = "" then leaf.2.name else parent ++ "." ++ leaf.2.name
  d.definition.name ++ "(" ++ d.definition.emitVersion d.release ++ ")." ++ name

/-- The report of the guess for the entry of a leaf. -/
def VersionedSet.guess (d : VersionedSet) (leaf : Option String × Property) : Diagnostic :=
  .inferredType (d.entryPlace leaf) (guessDataType leaf.2.name)

theorem flatMap_ite_singleton {α β : Type} (p : α → Bool) (f : α → β) (l : List α) :
    (l.flatMap fun a => if p a then [f a] else []) = (l.filter p).map f := by
  induction l with
  | nil => rfl
  | cons a l ih =>
    rw [List.flatMap_cons, ih, List.filter_cons]
    cases p a <;> rfl

/-! ### Parameters -/

/-- The parameter of a property that is not complex, with the report of the guess if it is untyped.
-/
theorem run_buildParameter {p : Property} (h : p.isComplex = false) (name set : String)
    (groupId : Int) :
    (buildParameter name p set groupId).run =
      ⟨.ok (Occurrence.parameter groupId (set, name, p)),
        if p.isUntyped then [Occurrence.guess (set, name, p)] else []⟩ := by
  have hplace : set ++ "." ++ p.name ≠ "" := by simp [String.append_eq_empty_iff]
  refine Report.ext ?_ ?_
  · rw [buildParameter, Attempt.value_bind_ok (Property.value_classify h _)]
    rfl
  · rw [buildParameter, Attempt.log_bind_ok (Property.value_classify h _)]
    refine (List.append_nil _).trans ?_
    obtain ⟨pname, ifdGuid, aliases, valueType⟩ := p
    unfold Property.classify
    dsimp only at hplace ⊢
    rcases valueType with _ | (_ | _ | _ | _ | _ | _ | _)
    case none =>
      rw [Attempt.log_bind_liftM, log_inferDataType _ hplace]
      rfl
    case some.complex => cases h
    all_goals rfl

theorem isComplex_of_isUntyped {p : Property} (h : p.isUntyped = true) : p.isComplex = false := by
  rw [Property.isComplex, Option.isNone_iff_eq_none.mp h]

/-- A property without a type is classified by the guess. -/
theorem classified_of_isUntyped {p : Property} (h : p.isUntyped = true) :
    p.classified = (paramTypeFor (guessDataType p.name), guessDataType p.name) := by
  have hvalue : p.valueType = none := Option.isNone_iff_eq_none.mp h
  rw [Property.classified, Property.classify, hvalue]
  dsimp only
  rw [Attempt.value_bind_liftM, value_inferDataType, Attempt.value_pure]
  rfl

/-- Merging a parameter warns of nothing. -/
theorem logs_mergeParameter (table : ParameterTable) (p : Parameter) (external : Option String)
    (supply : Supply) : (mergeParameter table p external supply).Logs (·.level ≠ .warning) := by
  unfold mergeParameter
  split
  · split
    · exact .reported (show Level.info ≠ Level.warning by decide) _
    · exact .pure _
  · exact .pure _
  · exact .pure _
  · exact .pure _

theorem logs_mergeInstance (p : Parameter) (external : Option String) :
    (mergeInstance p external).Logs (·.level ≠ .warning) := by
  unfold mergeInstance
  refine .bind .get fun ledger => .bind (.ofReport (logs_mergeParameter _ _ _ _)) fun merged => ?_
  exact .bind (.set _) fun _ => .pure _

theorem logs_mergeType (p : Parameter) (external : Option String) :
    (mergeType p external).Logs (·.level ≠ .warning) := by
  unfold mergeType
  refine .bind .get fun ledger => .bind (.ofReport (logs_mergeParameter _ _ _ _)) fun merged => ?_
  exact .bind (.set _) fun _ => .pure _

theorem logs_mergeBoth (p : Parameter) (ifdGuid : Option String) :
    (mergeBoth p ifdGuid).Logs (·.level ≠ .warning) := by
  unfold mergeBoth
  refine .bind (logs_mergeInstance _ _) fun entry => ?_
  dsimp only
  split
  · refine .bind (.map (.ofExcept _) _) fun external => ?_
    exact .bind (logs_mergeType _ _) fun _ => .pure _
  · exact .bind (.pure _) fun external => .bind (logs_mergeType _ _) fun _ => .pure _

/-- What merging an occurrence warns of: its guess, if it is untyped. -/
theorem warnings_mergeOccurrence (groupId : Int) {o : Occurrence}
    (hsimple : o.2.2.isComplex = false) (ledger : Ledger) :
    ((mergeOccurrence groupId o).log ledger).filter (·.level = .warning) =
      if o.2.2.isUntyped then [o.guess] else [] := by
  obtain ⟨set, name, p⟩ := o
  have hrun := run_buildParameter hsimple name set groupId
  have hbuilt : (Attempt.onState (buildParameter name p set groupId)).outcome ledger =
      (.ok (Occurrence.parameter groupId (set, name, p)), ledger) := by
    rw [Run.outcome_onState, hrun]
  have hmerged : ((mergeBoth (Occurrence.parameter groupId (set, name, p)) p.ifdGuid >>=
      fun _ => pure ()).log ledger).filter (·.level = .warning) = [] := by
    rw [Run.log_bind_pure, List.filter_eq_nil_iff]
    exact fun d hd => by simpa using logs_mergeBoth _ _ ledger d hd
  rw [mergeOccurrence]
  dsimp only
  rw [Run.log_bind_ok hbuilt, Run.log_onState, hrun, List.filter_append, hmerged, List.append_nil]
  dsimp only
  split
  · rfl
  · rfl

/-- What merging a flat catalog warns of: one guess for each occurrence that is untyped, in order. -/
theorem warnings_mergeCatalog {catalog : Catalog} (hflat : catalog.IsFlat)
    (hguids : catalog.HasReadableGuids) (qualified : Bool) (groupId : Int) (ledger : Ledger) :
    ((mergeCatalog catalog qualified groupId).log ledger).filter (·.level = .warning) =
      ((catalog.occurrences qualified).filter (·.2.2.isUntyped)).map Occurrence.guess := by
  have hends : ∀ o ∈ catalog.occurrences qualified, ∀ s : Ledger,
      ∃ t, (mergeOccurrence groupId o).outcome s = (.ok (), t) :=
    fun o ho s => ⟨_, outcome_mergeOccurrence groupId (hflat.isComplex_eq_false ho)
      (fun _ hgiven => hguids.isSome_read? ho hgiven) s⟩
  rw [mergeCatalog, Run.log_bind_pure, Run.filter_log_forM hends fun o ho s =>
    warnings_mergeOccurrence groupId (hflat.isComplex_eq_false ho) s]
  exact flatMap_ite_singleton _ _ _

/-! ### Entries -/

theorem guesses_eq (d : VersionedSet) (leaf : Option String × Property) :
    guesses d.definition (d.definition.emitVersion d.release) leaf =
      if leaf.2.isUntyped then [d.guess leaf] else [] := by
  unfold guesses Property.isUntyped
  cases leaf.2.valueType with
  | none => rfl
  | some t => rfl

/-- The guesses among the reports on a definition. -/
theorem filter_isGuess_notes (d : VersionedSet) :
    d.notes.filter (·.isGuess) =
      if d.isExported then (d.definition.leaves.filter (·.2.isUntyped)).map d.guess else [] := by
  rw [VersionedSet.notes]
  split
  · rw [List.flatMap_congr fun leaf _ => guesses_eq d leaf, flatMap_ite_singleton,
      List.filter_eq_self]
    rintro _ hmem
    obtain ⟨leaf, -, rfl⟩ := List.mem_map.mp hmem
    rfl
  · rfl

theorem filter_isGuess_groupNotes (group : String × List VersionedSet) :
    (groupNotes group).filter (·.isGuess) =
      (group.2.filter (·.isExported)).flatMap fun d =>
        (d.definition.leaves.filter (·.2.isUntyped)).map d.guess := by
  have hleft : (if group.2.any (·.isExported) then [] else
      [Diagnostic.nothingExported group.1]).filter (·.isGuess) = [] := by
    split <;> rfl
  rw [groupNotes, List.filter_append, hleft, List.append_nil, List.filter_flatMap]
  induction group.2 with
  | nil => rfl
  | cons d definitions ih =>
    rw [List.flatMap_cons, ih, filter_isGuess_notes, List.filter_cons]
    cases d.isExported with
    | true => rfl
    | false => rfl

/-- The guesses that building the methods of a flat catalog reports: one for each leaf that is
untyped of each definition that can be exported, in order. -/
theorem guesses_buildInitMethods {catalog : Catalog} {space : String} {methods : List InitMethod}
    (h : (buildInitMethods catalog space).run.value = .ok methods) :
    (buildInitMethods catalog space).run.log.filter (·.isGuess) =
      (catalog.entries.filter (·.isExported)).flatMap fun d =>
        (d.definition.leaves.filter (·.2.isUntyped)).map d.guess := by
  rw [log_buildInitMethods h, List.filter_flatMap, Catalog.entries, List.filter_flatMap,
    List.flatMap_assoc]
  exact List.flatMap_congr fun group _ => filter_isGuess_groupNotes group

/-! ### Both guesses -/

/-- One data type is guessed for the parameter of a leaf, under whatever name, and for its entry, and
either guess is all that is reported.  The parameter has the data type for its description and the
primitive type of it for its type; the entry is of the host's type for it, and of no kind of values.
-/
structure GuessedAlike (d : VersionedSet) (space : String) (groupId : Int)
    (leaf : Option String × Property) (dataType : String) : Prop where
  parameter : ∀ name, (buildParameter name leaf.2 d.definition.name groupId).run =
    ⟨.ok { name, paramType := paramTypeFor dataType, description := dataType, groupId,
           owningSet := some d.definition.name },
      [.inferredType (d.definition.name ++ "." ++ leaf.2.name) dataType]⟩
  entry : ∃ entry, (buildEntry d.definition leaf.2 (d.definition.emitVersion d.release)
      (leaf.1.getD "") space).run = ⟨.ok entry, [.inferredType (d.entryPlace leaf) dataType]⟩ ∧
    entry.propertyType = shortTypeName (some dataType) ∧ entry.valueType = none

theorem guessedAlike (d : VersionedSet) (space : String) (groupId : Int)
    {leaf : Option String × Property} (h : leaf.2.isUntyped = true) :
    GuessedAlike d space groupId leaf (guessDataType leaf.2.name) := by
  have hvalue : leaf.2.valueType = none := Option.isNone_iff_eq_none.mp h
  have hlog := log_buildEntry d.definition leaf (d.definition.emitVersion d.release) space
  rw [guesses_eq, if_pos h] at hlog
  obtain ⟨entry, hentry, htype, hnone⟩ : ∃ entry, (buildEntry d.definition leaf.2
      (d.definition.emitVersion d.release) (leaf.1.getD "") space).run.value = .ok entry ∧
      entry.propertyType = shortTypeName (some (guessDataType leaf.2.name)) ∧
      entry.valueType = none := by
    unfold buildEntry
    rw [hvalue]
    dsimp only
    rw [Attempt.value_bind_liftM, value_inferDataType, Attempt.value_pure]
    refine ⟨_, rfl, ?_, ?_⟩
    · dsimp only
    · dsimp only
  refine ⟨fun name => ?_, entry, Report.ext hentry hlog, htype, hnone⟩
  rw [run_buildParameter (isComplex_of_isUntyped h), if_pos h, Occurrence.parameter,
    classified_of_isUntyped h, Occurrence.guess]

/-- **Every guess is reported once, and both guesses are alike.**  A flat catalog whose identifiers
can be read is merged to its end, and all that this warns of is one guess for each property without
a type that becomes a parameter, in order; the initializer is built of it, and the guesses that this
reports are one for each leaf without a type of each definition that can be exported, in order.
What is guessed for such a leaf on one way is what is guessed on the other. -/
theorem guesses_agree {catalog : Catalog} (hflat : catalog.IsFlat)
    (hguids : catalog.HasReadableGuids) (qualified : Bool) (groupId : Int) (space : String)
    (ledger : Ledger) :
    ((∃ after, (mergeCatalog catalog qualified groupId).outcome ledger =
        (.ok (catalog.occurrences qualified).length, after)) ∧
      ((mergeCatalog catalog qualified groupId).log ledger).filter (·.level = .warning) =
        ((catalog.occurrences qualified).filter (·.2.2.isUntyped)).map Occurrence.guess) ∧
    ((∃ methods, (buildInitMethods catalog space).run.value = .ok methods) ∧
      (buildInitMethods catalog space).run.log.filter (·.isGuess) =
        (catalog.entries.filter (·.isExported)).flatMap fun d =>
          (d.definition.leaves.filter (·.2.isUntyped)).map d.guess) ∧
    (∀ d ∈ catalog.entries, ∀ leaf ∈ d.definition.leaves, leaf.2.isUntyped = true →
      ∃ dataType, GuessedAlike d space groupId leaf dataType) ∧
    ∀ place dataType, (Diagnostic.inferredType place dataType).level = .warning := by
  obtain ⟨methods, hmethods, -⟩ := exists_buildInitMethods hflat space
  refine ⟨⟨⟨_, outcome_mergeCatalog hflat hguids qualified groupId ledger⟩,
      warnings_mergeCatalog hflat hguids qualified groupId ledger⟩,
    ⟨⟨methods, hmethods⟩, guesses_buildInitMethods hmethods⟩,
    fun d _ leaf _ h => ⟨_, guessedAlike d space groupId h⟩, fun _ _ => rfl⟩

/-- Two releases of a definition, of which only one can be exported: a complex property has an
untyped member, and another property is untyped itself. -/
def glazingCatalog : Catalog where
  definitions :=
    let glazing (version : String) : PropertySet :=
      { name := "Pset_Glazing", version, release := version
        properties :=
          [{ name := "Pane", valueType := some (.complex "CP_Pane" [{ name := "Thickness" },
              { name := "Color", valueType := some (.single "IfcLabel") }]) },
            { name := "Reference", ifdGuid := some "f1c2e6d0-0a4b-4a53-9d3a-6a2f0c1b7e55" }] }
    [("Pset_Glazing", [⟨"IFC2X", glazing "IFC2X"⟩, ⟨"IFC4", glazing "IFC4"⟩])]

theorem guesses_agree_glazing : glazingCatalog.IsFlat ∧ glazingCatalog.HasReadableGuids ∧
    ((mergeCatalog glazingCatalog).log { supply := { fresh := Guid.ofNat } }).filter
        (·.level = .warning) =
      [.inferredType "Pset_Glazing.Thickness" "IfcReal",
        .inferredType "Pset_Glazing.Reference" "IfcIdentifier",
        .inferredType "Pset_Glazing.Thickness" "IfcReal",
        .inferredType "Pset_Glazing.Reference" "IfcIdentifier"] ∧
    (buildInitMethods glazingCatalog).run.log.filter (·.isGuess) =
      [.inferredType "Pset_Glazing(IFC4).Pane.Thickness" "IfcReal",
        .inferredType "Pset_Glazing(IFC4).Reference" "IfcIdentifier"] := by
  have hentries : glazingCatalog.entries = glazingCatalog.definitions.flatMap (·.2) :=
    Catalog.entries_singleton _ _
  have hflat : glazingCatalog.IsFlat := by
    rw [Catalog.IsFlat, hentries]
    decide
  have hguids : glazingCatalog.HasReadableGuids := by
    rw [Catalog.HasReadableGuids, hentries]
    decide +kernel
  obtain ⟨⟨-, hmerged⟩, ⟨-, hbuilt⟩, -⟩ := guesses_agree hflat hguids false 2 ""
    { supply := { fresh := Guid.ofNat } }
  rw [Catalog.occurrences, hentries] at hmerged
  rw [hentries] at hbuilt
  refine ⟨hflat, hguids, hmerged.trans ?_, hbuilt.trans ?_⟩
  · rfl
  · rfl

end PsetCompiler
