import PsetCompiler.Pipeline.Run
import PsetCompiler.Proofs.Entries

/-!
# Inputs of steps

A step takes its inputs from two places.  Its own inputs count first, and behind them the outputs of
its dependencies, the later ones more than the earlier ones.  Fields are put over fields, one
dependency after the other, so the loop is told by what one output changes: it has its say for the
fields that it has, and leaves all others alone.

Nothing else is read.  Results that agree on the dependencies give one step the same inputs and the
same reports, whatever other steps have left behind.

## Main definitions

* `StepResults.field?` — a field of the output of a step, if the step has run.
* `GivesLast` — the value of a field comes from the last dependency that has it.

## Main results

* `lookup_overFields`, `lookup_dependencyFields` — what one output changes, and what many change.
* `log_dependencyFields` — the reports.
* `stepInput_congr` — inputs depend on the dependencies alone.
* `stepInput_precedence` — **which value counts for each input of a step.**
-/

namespace PsetCompiler

/-- A field of the output of a step, if the step has run and its output has the field. -/
def StepResults.field? (results : StepResults) (step key : String) : Option Json :=
  (results.lookup step).bind (Json.member? key)

/-- The value of a field comes from the last of some dependencies that has run and has the field in
its output. -/
def GivesLast (results : StepResults) (dependencies : List String) (key : String) (value : Json) :
    Prop :=
  ∃ before dependency after output, dependencies = before ++ dependency :: after ∧
    results.lookup dependency = some output ∧ output.member? key = some value ∧
    ∀ later ∈ after, ∀ other, results.lookup later = some other → other.member? key = none

/-! ### Fields over fields -/

theorem Json.lookupLast_cons (key : String) (member : String × Json)
    (members : List (String × Json)) :
    lookupLast key (member :: members) =
      (lookupLast key members).or (if key == member.1 then some member.2 else none) := by
  rw [lookupLast, List.reverse_cons, List.lookup_append, List.lookup_cons, List.lookup_nil,
    ← lookupLast]
  cases key == member.1 <;> rfl

/-- Fields put over others are found, and where there is none what was there before is found. -/
theorem lookup_overFields (fields : List (String × Json)) (output : Json) (key : String) :
    (overFields fields output).lookup key = (output.member? key).or (fields.lookup key) := by
  cases output with
  | obj members =>
    rw [overFields, Json.member?]
    induction members generalizing fields with
    | nil => rfl
    | cons member members ih =>
      have hput : (insertEntry fields member.1 member.2).lookup key =
          if key == member.1 then some member.2 else fields.lookup key :=
        lookup_putEntry fields member.1 key member.2
      rw [List.foldl_cons, ih, hput, Json.lookupLast_cons, Option.or_assoc]
      congr 1
      cases key == member.1 <;> rfl
  | _ => rfl

/-- No field is there twice when others are put over fields. -/
theorem nodup_keys_overFields {fields : List (String × Json)} (h : (fields.map (·.1)).Nodup)
    (output : Json) : ((overFields fields output).map (·.1)).Nodup := by
  cases output with
  | obj members =>
    rw [overFields]
    induction members generalizing fields with
    | nil => exact h
    | cons member members ih =>
      rw [List.foldl_cons]
      apply ih
      exact nodup_keys_putEntry h member.1 member.2
  | _ => exact h

/-! ### The loop over the dependencies -/

section

variable (step : String) {results : StepResults} {dependency : String}

/-- A dependency that has run puts its output over the fields. -/
theorem dependencyFields_cons_of_run {output : Json} (h : results.lookup dependency = some output)
    (fields : List (String × Json)) (rest : List String) :
    dependencyFields step results fields (dependency :: rest) =
      dependencyFields step results (overFields fields output) rest := by
  rw [dependencyFields, h]

/-- A dependency that has not run is reported and leaves the fields alone. -/
theorem dependencyFields_cons_of_missing (h : results.lookup dependency = none)
    (fields : List (String × Json)) (rest : List String) :
    dependencyFields step results fields (dependency :: rest) =
      ⟨(dependencyFields step results fields rest).value,
        .dependencyMissing step dependency :: (dependencyFields step results fields rest).log⟩ := by
  rw [dependencyFields, h]
  rfl

end

/-- A field behind the loop: that of the last dependency that has it, else that of before. -/
theorem lookup_dependencyFields (step : String) (results : StepResults)
    (fields : List (String × Json)) (dependencies : List String) (key : String) :
    (dependencyFields step results fields dependencies).value.lookup key =
      (dependencies.reverse.findSome? (results.field? · key)).or (fields.lookup key) := by
  induction dependencies generalizing fields with
  | nil => rfl
  | cons dependency rest ih =>
    rw [List.reverse_cons, List.findSome?_append, List.findSome?_singleton]
    cases hrun : results.lookup dependency with
    | none =>
      have hfield : results.field? dependency key = none := by
        rw [StepResults.field?, hrun]
        rfl
      rw [dependencyFields_cons_of_missing step hrun, hfield, Option.or_none]
      exact ih fields
    | some output =>
      have hfield : results.field? dependency key = output.member? key := by
        rw [StepResults.field?, hrun]
        rfl
      rw [dependencyFields_cons_of_run step hrun, ih, lookup_overFields, hfield, Option.or_assoc]

theorem nodup_keys_dependencyFields (step : String) (results : StepResults)
    {fields : List (String × Json)} (h : (fields.map (·.1)).Nodup) (dependencies : List String) :
    ((dependencyFields step results fields dependencies).value.map (·.1)).Nodup := by
  induction dependencies generalizing fields with
  | nil => exact h
  | cons dependency rest ih =>
    cases hrun : results.lookup dependency with
    | none =>
      rw [dependencyFields_cons_of_missing step hrun]
      exact ih h
    | some output =>
      rw [dependencyFields_cons_of_run step hrun]
      exact ih (nodup_keys_overFields h output)

/-- Every dependency that has not run is reported, as often as it is listed, and nothing else is. -/
theorem log_dependencyFields (step : String) (results : StepResults)
    (fields : List (String × Json)) (dependencies : List String) :
    (dependencyFields step results fields dependencies).log =
      (dependencies.filter fun dependency => (results.lookup dependency).isNone).map
        (.dependencyMissing step) := by
  induction dependencies generalizing fields with
  | nil => rfl
  | cons dependency rest ih =>
    cases hrun : results.lookup dependency with
    | none =>
      rw [dependencyFields_cons_of_missing step hrun, List.filter_cons_of_pos (by simp [hrun]),
        List.map_cons, ← ih fields]
    | some output =>
      rw [dependencyFields_cons_of_run step hrun, List.filter_cons_of_neg (by simp [hrun])]
      exact ih _

/-- The loop reads the results of the dependencies alone. -/
theorem dependencyFields_congr (step : String) {results others : StepResults}
    {dependencies : List String}
    (h : ∀ dependency ∈ dependencies, others.lookup dependency = results.lookup dependency)
    (fields : List (String × Json)) :
    dependencyFields step others fields dependencies =
      dependencyFields step results fields dependencies := by
  induction dependencies generalizing fields with
  | nil => rfl
  | cons dependency rest ih =>
    rw [List.forall_mem_cons] at h
    cases hrun : results.lookup dependency with
    | none =>
      rw [dependencyFields_cons_of_missing step hrun,
        dependencyFields_cons_of_missing step (h.1.trans hrun), ih h.2]
    | some output =>
      rw [dependencyFields_cons_of_run step hrun,
        dependencyFields_cons_of_run step (h.1.trans hrun), ih h.2]

/-! ### Inputs -/

/-- The search from the end finds what the last dependency gives. -/
theorem findSome?_field?_eq_some_iff {results : StepResults} {dependencies : List String}
    {key : String} {value : Json} :
    dependencies.reverse.findSome? (results.field? · key) = some value ↔
      GivesLast results dependencies key value := by
  have hnone (step : String) : results.field? step key = none ↔
      ∀ other, results.lookup step = some other → other.member? key = none :=
    Option.bind_eq_none_iff
  rw [findSome?_reverse_eq_some_iff]
  constructor
  · rintro ⟨before, dependency, after, hlist, hfound, hafter⟩
    obtain ⟨output, hrun, hvalue⟩ := Option.bind_eq_some_iff.mp hfound
    refine ⟨before, dependency, after, output, hlist, hrun, hvalue, ?_⟩
    intro later hlater
    exact (hnone later).mp (hafter later hlater)
  · rintro ⟨before, dependency, after, output, hlist, hrun, hvalue, hafter⟩
    refine ⟨before, dependency, after, hlist, ?_, ?_⟩
    · exact Option.bind_eq_some_iff.mpr ⟨output, hrun, hvalue⟩
    · intro later hlater
      exact (hnone later).mpr (hafter later hlater)

/-- The inputs of a step depend on the results of its dependencies alone, and so do the reports. -/
theorem stepInput_congr (entry : StepEntry) {results others : StepResults}
    (h : ∀ dependency ∈ entry.dependsOn, others.lookup dependency = results.lookup dependency) :
    stepInput entry others = stepInput entry results := by
  rw [stepInput, dependencyFields_congr entry.name h, ← stepInput]

/-- **Which value counts for each input of a step.**  Its own input counts first.  Where it has
none, the last dependency counts that has run and has the field in its output, and where there is
none the input is absent.  A dependency that has not run is reported, once for every time it is
listed, and nothing else is.  The results of other steps change neither the inputs nor the
reports. -/
theorem stepInput_precedence (entry : StepEntry) (results : StepResults) :
    ∃ fields log, stepInput entry results = ⟨.obj fields, log⟩ ∧
      (fields.map (·.1)).Nodup ∧
      (∀ key value, fields.lookup key = some value ↔
        Json.lookupLast key entry.inputs = some value ∨
          Json.lookupLast key entry.inputs = none ∧
            GivesLast results entry.dependsOn key value) ∧
      log = (entry.dependsOn.filter fun dependency => (results.lookup dependency).isNone).map
        (.dependencyMissing entry.name) ∧
      (∀ d ∈ log, d.level = .warning) ∧
      ∀ others : StepResults,
        (∀ dependency ∈ entry.dependsOn, others.lookup dependency = results.lookup dependency) →
          stepInput entry others = stepInput entry results := by
  let given := dependencyFields entry.name results [] entry.dependsOn
  have hlog : given.log = _ := log_dependencyFields entry.name results [] entry.dependsOn
  have hgiven (key : String) (value : Json) :
      given.value.lookup key = some value ↔ GivesLast results entry.dependsOn key value := by
    rw [lookup_dependencyFields, List.lookup_nil, Option.or_none, findSome?_field?_eq_some_iff]
  refine ⟨overFields given.value (.obj entry.inputs), given.log, ?_, ?_, ?_, hlog, ?_, ?_⟩
  · exact Report.ext rfl (List.append_nil _)
  · have hstart : (([] : List (String × Json)).map (·.1)).Nodup := .nil
    apply nodup_keys_overFields
    exact nodup_keys_dependencyFields entry.name results hstart entry.dependsOn
  · intro key value
    rw [lookup_overFields, Json.member?, Option.or_eq_some_iff, hgiven]
  · intro d hd
    rw [hlog] at hd
    obtain ⟨dependency, -, rfl⟩ := List.mem_map.mp hd
    rfl
  · intro others hothers
    exact stepInput_congr entry hothers

end PsetCompiler
