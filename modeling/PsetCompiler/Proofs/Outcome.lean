import PsetCompiler.Report
import Mathlib.Data.List.Forall2

/-!
# Outcomes of runs

A run gives a value or a failure, the state that is left, and reports.  Most statements are about
the first two; the outcome is what is left of a run when its reports are put aside.  It is computed
part by part: the lemmas here say what the outcome of each way to build a run is.  A computation
without a state has a value instead of an outcome, and the same is said of it.

Where the reports matter, a statement is about the whole result.  A part that reports nothing then
only hands its value and its state on.

## Main definitions

* `Run.outcome` — the result of a run from a state, and the state it leaves.
* `Run.result` — the same, with the reports.
* `Run.Keeps` — a part of the state is the same after a run.

## Main results

* `Run.outcome_bind` — the outcome of a sequence.
* `Run.outcome_bind_eq_ok_iff` — what it takes for a sequence to give a value.
* `Run.outcome_forM` — the outcome of a loop whose steps do not fail.
* `Run.exists_outcome_of_forM` — the steps of a loop that comes to its end.
* `Run.result_bind_pure` — the result of a sequence whose first part is quiet.
* `Report.value_foldlM` — the value of a loop that only reports.
* `Attempt.value_bind_eq_ok_iff` — what it takes for a sequence without a state to give a value.
* `Attempt.value_foldlM_read_eq_ok_iff`, `Attempt.foldlM_keeps`,
  `Attempt.exists_value_mapM_forall₂`, `Attempt.forall₂_of_value_mapM` — loops without a state.
* `Attempt.log_mapM` — what such a loop over a list reports.
* `Attempt.run_foldlM` — the value and the reports of a loop whose steps do not fail.
-/

namespace PsetCompiler

variable {σ α β : Type}

namespace Run

/-- The result of a run from a state, and the state it leaves. -/
def outcome (x : Run σ α) (s : σ) : Except Failure α × σ :=
  (StateT.run (ExceptT.run x) s).value

/-- A failure ends a sequence, a value is handed on together with the state. -/
theorem outcome_bind (x : Run σ α) (f : α → Run σ β) (s : σ) :
    outcome (x >>= f) s =
      match outcome x s with
      | (.ok a, s') => outcome (f a) s'
      | (.error e, s') => (.error e, s') := by
  show ((ExceptT.bindCont f _ : StateT σ Report _) _).value = _
  unfold outcome
  rcases h : (StateT.run (ExceptT.run x) s).value with ⟨r, s'⟩
  have h' : (x s).value = (r, s') := h
  simp only [h']
  cases r <;> rfl

theorem outcome_bind_ok {x : Run σ α} {s s' : σ} {a : α} (h : outcome x s = (.ok a, s'))
    (f : α → Run σ β) : outcome (x >>= f) s = outcome (f a) s' := by
  rw [outcome_bind, h]

theorem outcome_bind_error {x : Run σ α} {s s' : σ} {e : Failure}
    (h : outcome x s = (.error e, s')) (f : α → Run σ β) :
    outcome (x >>= f) s = (.error e, s') := by
  rw [outcome_bind, h]

/-- A sequence gives a value exactly when both parts do, one after the other. -/
theorem outcome_bind_eq_ok_iff {x : Run σ α} {f : α → Run σ β} {s t : σ} {b : β} :
    outcome (x >>= f) s = (.ok b, t) ↔
      ∃ a s', outcome x s = (.ok a, s') ∧ outcome (f a) s' = (.ok b, t) := by
  rcases hx : outcome x s with ⟨e | a, s'⟩
  · rw [outcome_bind_error hx]
    simp
  · rw [outcome_bind_ok hx]
    constructor
    · intro h
      exact ⟨a, s', rfl, h⟩
    · rintro ⟨a', t', heq, h⟩
      cases heq
      exact h

@[simp] theorem outcome_pure (a : α) (s : σ) : outcome (pure a : Run σ α) s = (.ok a, s) := rfl

@[simp] theorem outcome_get (s : σ) : outcome (get : Run σ σ) s = (.ok s, s) := rfl

/-- A computation that only reports gives its value and leaves the state. -/
@[simp] theorem outcome_liftM (x : Report α) (s : σ) :
    outcome (liftM x : Run σ α) s = (.ok x.value, s) := rfl

/-- A computation that fails without a state leaves the state. -/
@[simp] theorem outcome_onState (x : Attempt α) (s : σ) :
    outcome (x.onState : Run σ α) s = (x.run.value, s) := rfl

@[simp] theorem outcome_ofExcept (x : Except Failure α) (s : σ) :
    outcome (Run.ofExcept x : Run σ α) s = (x, s) := by
  cases x <;> rfl

/-- When no step fails, a loop over a list folds the states that the steps leave. -/
theorem outcome_forM {f : α → Run σ Unit} {next : σ → α → σ} {xs : List α}
    (h : ∀ x ∈ xs, ∀ s, outcome (f x) s = (.ok (), next s x)) (s : σ) :
    outcome (xs.forM f) s = (.ok (), xs.foldl next s) := by
  induction xs generalizing s with
  | nil => rfl
  | cons x xs ih =>
    show outcome (f x >>= fun _ => xs.forM f) s = _
    rw [outcome_bind_ok (h x List.mem_cons_self s)]
    exact ih (fun y hy => h y (List.mem_cons_of_mem _ hy)) _

/-- A loop comes to its end only if every step does, each from some state on the way. -/
theorem exists_outcome_of_forM {f : α → Run σ Unit} {xs : List α} {s t : σ}
    (h : outcome (xs.forM f) s = (.ok (), t)) :
    ∀ x ∈ xs, ∃ s' t', outcome (f x) s' = (.ok (), t') := by
  induction xs generalizing s with
  | nil => exact nofun
  | cons x xs ih =>
    obtain ⟨_, s', hfirst, hrest⟩ := outcome_bind_eq_ok_iff.mp h
    rw [List.forall_mem_cons]
    exact ⟨⟨s, s', hfirst⟩, ih hrest⟩

/-! ### What a run leaves alone -/

/-- A part of the state is the same after a run as before it, whatever comes of the run. -/
def Keeps (part : σ → β) (x : Run σ α) : Prop :=
  ∀ s, part (outcome x s).2 = part s

namespace Keeps

variable {γ : Type} {part : σ → γ}

theorem pure (a : α) : Keeps part (Pure.pure a : Run σ α) :=
  fun _ => rfl

theorem fails (e : Failure) : Keeps part (throw e : Run σ α) :=
  fun _ => rfl

theorem get : Keeps part (MonadState.get : Run σ σ) :=
  fun _ => rfl

theorem ofReport (x : Report α) : Keeps part (liftM x : Run σ α) :=
  fun _ => rfl

theorem ofExcept (x : Except Failure α) : Keeps part (Run.ofExcept x : Run σ α) := by
  intro s
  rw [outcome_ofExcept]

theorem bind {x : Run σ α} {f : α → Run σ β} (hx : Keeps part x) (hf : ∀ a, Keeps part (f a)) :
    Keeps part (x >>= f) := by
  intro s
  have hfirst := hx s
  rcases h : outcome x s with ⟨e | a, s'⟩
  · rw [h] at hfirst
    rw [outcome_bind_error h]
    exact hfirst
  · rw [h] at hfirst
    rw [outcome_bind_ok h]
    exact (hf a s').trans hfirst

/-- A run that keeps the whole state ends where it began, with a failure or with a value. -/
theorem error_or_ok {x : Run σ α} (hx : Keeps id x) (s : σ) :
    (∃ e, outcome x s = (.error e, s)) ∨ ∃ a, outcome x s = (.ok a, s) := by
  have hstate : (outcome x s).2 = s := hx s
  rcases h : outcome x s with ⟨e | a, s'⟩
  · rw [h] at hstate
    exact .inl ⟨e, by rw [← hstate]⟩
  · rw [h] at hstate
    exact .inr ⟨a, by rw [← hstate]⟩

end Keeps

/-! ### With reports -/

/-- The result of a run from a state, the state it leaves, and the reports made on the way. -/
def result (x : Run σ α) (s : σ) : Report (Except Failure α × σ) :=
  StateT.run (ExceptT.run x) s

theorem outcome_of_result {x : Run σ α} {s t : σ} {r : Except Failure α}
    (h : x.result s = pure (r, t)) : x.outcome s = (r, t) :=
  congrArg Report.value h

/-- A part that gives a value without a report hands on the value and the state. -/
theorem result_bind_pure {x : Run σ α} {s s' : σ} {a : α} (h : x.result s = pure (.ok a, s'))
    (f : α → Run σ β) : (x >>= f).result s = (f a).result s' := by
  show ((x.result s).andThen fun r => ExceptT.bindCont f r.1 r.2) = _
  rw [h]
  rfl

@[simp] theorem result_get (s : σ) : (get : Run σ σ).result s = pure (.ok s, s) := rfl

@[simp] theorem result_pure (a : α) (s : σ) : (pure a : Run σ α).result s = pure (.ok a, s) := rfl

@[simp] theorem result_ofExcept (x : Except Failure α) (s : σ) :
    (Run.ofExcept x : Run σ α).result s = pure (x, s) := by
  cases x <;> rfl

/-- A computation that only reports gives its value, and reports what it does. -/
theorem result_liftM (x : Report α) (s : σ) :
    (liftM x : Run σ α).result s = ⟨(.ok x.value, s), x.log⟩ :=
  Report.ext rfl ((List.append_nil _).trans (List.append_nil _))

end Run

/-- A loop that only reports folds the values of its steps. -/
theorem Report.value_foldlM (f : β → α → Report β) (init : β) (xs : List α) :
    (xs.foldlM f init).value = xs.foldl (fun b x => (f b x).value) init := by
  induction xs generalizing init with
  | nil => rfl
  | cons x xs ih =>
    rw [List.foldlM_cons, Report.value_bind, ih, List.foldl_cons]

/-- A sequence of computations that only fail gives a value exactly when both parts do. -/
theorem except_bind_eq_ok_iff {x : Except Failure α} {f : α → Except Failure β} {b : β} :
    x >>= f = .ok b ↔ ∃ a, x = .ok a ∧ f a = .ok b := by
  cases x with
  | ok a =>
    show f a = .ok b ↔ _
    simp
  | error e =>
    constructor
    · nofun
    · rintro ⟨a, ha, -⟩
      cases ha

/-- A value that is changed before it is handed on. -/
theorem except_map_bind {γ : Type} (f : α → β) (x : Except Failure α)
    (g : β → Except Failure γ) : (x.map f >>= g) = x >>= fun a => g (f a) := by
  cases x <;> rfl

/-- What stands on the right of a relation of lists stands against something on the left. -/
theorem exists_left_of_mem {R : α → β → Prop} {xs : List α} {ys : List β}
    (h : List.Forall₂ R xs ys) {y : β} (hy : y ∈ ys) : ∃ x ∈ xs, R x y := by
  induction h with
  | nil => cases hy
  | cons hxy _ ih =>
    rcases List.mem_cons.mp hy with rfl | hy
    · exact ⟨_, List.mem_cons_self, hxy⟩
    · obtain ⟨x, hx, hxy⟩ := ih hy
      exact ⟨x, List.mem_cons_of_mem _ hx, hxy⟩

/-- Things that stand against nothing may be left out of a relation of lists. -/
theorem exists_forall₂_filter {R : α → Option β → Prop} {gone : α → Bool} {xs : List α}
    {ys : List (Option β)} (h : List.Forall₂ R xs ys)
    (hgone : ∀ x ∈ xs, gone x = true → ∀ y, R x y → y = none) :
    ∃ zs, List.Forall₂ R (xs.filter (!gone ·)) zs ∧ zs.filterMap id = ys.filterMap id := by
  induction h with
  | nil => exact ⟨[], .nil, rfl⟩
  | @cons x y xs ys hxy _ ih =>
    rw [List.forall_mem_cons] at hgone
    obtain ⟨zs, hzs, heq⟩ := ih hgone.2
    cases hx : gone x with
    | true =>
      obtain rfl := hgone.1 hx y hxy
      exact ⟨zs, by simpa [hx] using hzs, by simpa using heq⟩
    | false =>
      refine ⟨y :: zs, ?_, ?_⟩
      · rw [List.filter_cons_of_pos (by simp [hx])]
        exact .cons hxy hzs
      · rw [List.filterMap_cons, List.filterMap_cons, heq]

/-- Nothing is left of a list of optional things exactly if none is there. -/
theorem isEmpty_filterMap_of_forall₂ {keeps : α → Bool} {xs : List α}
    {ys : List (Option β)} (h : List.Forall₂ (fun x y => y.isSome = keeps x) xs ys) :
    (ys.filterMap id).isEmpty = !xs.any keeps := by
  induction h with
  | nil => rfl
  | @cons x y xs ys hxy _ ih =>
    rw [List.any_cons, ← hxy]
    cases y with
    | none => exact ih
    | some b => rfl

/-- What is left of optional things stands against the things that are kept. -/
theorem forall₂_filterMap_of_forall₂ {keeps : α → Bool} {R : α → β → Prop}
    {xs : List α} {ys : List (Option β)}
    (h : List.Forall₂ (fun x y => (keeps x = false ∧ y = none) ∨
      keeps x = true ∧ ∃ b, y = some b ∧ R x b) xs ys) :
    List.Forall₂ R (xs.filter keeps) (ys.filterMap id) := by
  induction h with
  | nil => exact .nil
  | @cons x y xs ys hxy _ ih =>
    obtain ⟨hnot, rfl⟩ | ⟨hkeeps, b, rfl, hb⟩ := hxy
    · rw [List.filter_cons_of_neg (by simp [hnot])]
      exact ih
    · rw [List.filter_cons_of_pos hkeeps]
      exact .cons hb ih

/-- What is left of optional things is named after the things that are kept. -/
theorem map_filterMap_of_forall₂ {γ : Type} {keeps : α → Bool} {named : α → γ} {name : β → γ}
    {xs : List α} {ys : List (Option β)}
    (h : List.Forall₂ (fun x y => y.map name = if keeps x then some (named x) else none) xs ys) :
    (ys.filterMap id).map name = (xs.filter keeps).map named := by
  induction h with
  | nil => rfl
  | @cons x y xs ys hxy _ ih =>
    cases hx : keeps x with
    | true =>
      rw [hx, if_pos rfl, Option.map_eq_some_iff] at hxy
      obtain ⟨b, rfl, hb⟩ := hxy
      rw [List.filter_cons_of_pos hx, List.map_cons, ← ih, ← hb]
      rfl
    | false =>
      rw [hx, if_neg Bool.false_ne_true, Option.map_eq_none_iff] at hxy
      rw [List.filter_cons_of_neg (by simp [hx]), ← ih, hxy]
      rfl

namespace Attempt

/-! ### Values of attempts -/

@[simp] theorem value_pure (a : α) : (pure a : Attempt α).run.value = .ok a := rfl

/-- A computation that only reports gives its value. -/
@[simp] theorem value_liftM (x : Report α) : (liftM x : Attempt α).run.value = .ok x.value := rfl

@[simp] theorem value_liftM_except (x : Except Failure α) :
    (liftM x : Attempt α).run.value = x := rfl

/-- A value of an attempt is handed on. -/
theorem value_bind_ok {x : Attempt α} {a : α} (h : x.run.value = .ok a)
    (f : α → Attempt β) : (x >>= f).run.value = (f a).run.value := by
  show (ExceptT.bindCont f x.run.value).value = _
  rw [h]
  rfl

theorem value_bind_liftM (x : Report α) (f : α → Attempt β) :
    ((liftM x : Attempt α) >>= f).run.value = (f x.value).run.value :=
  value_bind_ok (value_liftM x) f

theorem value_bind_except {x : Except Failure α} {a : α} (h : x = .ok a) (f : α → Attempt β) :
    ((liftM x : Attempt α) >>= f).run.value = (f a).run.value :=
  value_bind_ok ((value_liftM_except x).trans h) f

theorem bind_ok (a : α) (f : α → Attempt β) :
    ((liftM (Except.ok a : Except Failure α) : Attempt α) >>= f) = f a :=
  rfl

theorem bind_map {γ : Type} (f : α → β) (x : Except Failure α) (g : β → Attempt γ) :
    ((liftM (x.map f) : Attempt β) >>= g) = (liftM x : Attempt α) >>= fun a => g (f a) := by
  cases x <;> rfl

/-- A sequence gives a value exactly when both parts do. -/
theorem value_bind_eq_ok_iff {x : Attempt α} {f : α → Attempt β} {b : β} :
    (x >>= f).run.value = .ok b ↔
      ∃ a, x.run.value = .ok a ∧ (f a).run.value = .ok b := by
  cases hx : x.run.value with
  | ok a =>
    rw [value_bind_ok hx]
    simp
  | error e =>
    have hfails : (x >>= f).run.value = .error e := by
      show (ExceptT.bindCont f x.run.value).value = _
      rw [hx]
      rfl
    constructor
    · intro h
      cases hfails.symm.trans h
    · rintro ⟨a, ha, -⟩
      cases ha

theorem run_bind_ok {x : Attempt α} {a : α} (h : x.run.value = .ok a) (f : α → Attempt β) :
    (x >>= f).run = ⟨(f a).run.value, x.run.log ++ (f a).run.log⟩ := by
  show (x.run >>= fun r => ExceptT.bindCont f r) = _
  refine Report.ext ?_ ?_
  · rw [Report.value_bind, h]
    rfl
  · rw [Report.log_bind, h]
    rfl

theorem run_bind_error {x : Attempt α} {e : Failure} (h : x.run.value = .error e)
    (f : α → Attempt β) : (x >>= f).run = ⟨.error e, x.run.log⟩ := by
  show (x.run >>= fun r => ExceptT.bindCont f r) = _
  refine Report.ext ?_ ?_
  · rw [Report.value_bind, h]
    rfl
  · rw [Report.log_bind, h]
    exact List.append_nil _

/-! ### Reports of attempts -/

theorem log_bind_ok {x : Attempt α} {a : α} (h : x.run.value = .ok a) (f : α → Attempt β) :
    (x >>= f).run.log = x.run.log ++ (f a).run.log :=
  congrArg Report.log (run_bind_ok h f)

/-- A computation that only fails reports nothing. -/
theorem log_bind_except {x : Except Failure α} {a : α} (h : x = .ok a) (f : α → Attempt β) :
    ((liftM x : Attempt α) >>= f).run.log = (f a).run.log := by
  rw [h, bind_ok]

/-- A computation that only reports does not fail. -/
theorem log_bind_liftM (x : Report α) (f : α → Attempt β) :
    ((liftM x : Attempt α) >>= f).run.log = x.log ++ (f x.value).run.log := by
  have hlog : (liftM x : Attempt α).run.log = x.log := List.append_nil _
  rw [log_bind_ok (value_liftM x), hlog]

/-- When no step fails, a loop folds what the steps make of the value, and it reports what they
report, one after the other. -/
theorem run_foldlM {f : β → α → Attempt β} {next : β → α → β} {notes : α → List Diagnostic}
    {xs : List α} (h : ∀ x ∈ xs, ∀ b, (f b x).run = ⟨.ok (next b x), notes x⟩) (init : β) :
    (xs.foldlM f init).run = ⟨.ok (xs.foldl next init), xs.flatMap notes⟩ := by
  induction xs generalizing init with
  | nil => rfl
  | cons x xs ih =>
    rw [List.forall_mem_cons] at h
    rw [List.foldlM_cons, run_bind_ok (congrArg Report.value (h.1 init)), h.1 init, ih h.2]
    rfl

/-- A loop gives a value only if every step does, each from some value on the way. -/
theorem exists_value_of_foldlM {f : β → α → Attempt β} {xs : List α} {init b : β}
    (h : (xs.foldlM f init).run.value = .ok b) :
    ∀ x ∈ xs, ∃ c d, (f c x).run.value = .ok d := by
  induction xs generalizing init with
  | nil => exact nofun
  | cons x xs ih =>
    rw [List.foldlM_cons] at h
    obtain ⟨next, hnext, hrest⟩ := value_bind_eq_ok_iff.mp h
    rw [List.forall_mem_cons]
    exact ⟨⟨init, next, hnext⟩, ih hrest⟩

/-- A loop that reads something of every item and only reports what it makes of it gives a value
exactly when everything can be read. -/
theorem value_foldlM_read_eq_ok_iff {γ : Type} {read : α → Attempt γ} {next : β → γ → Report β}
    {xs : List α} {init b : β} :
    (xs.foldlM (fun b x => do next b (← read x)) init : Attempt β).run.value = .ok b ↔
      ∃ ys, List.Forall₂ (fun x y => (read x).run.value = .ok y) xs ys ∧
        b = ys.foldl (fun b y => (next b y).value) init := by
  induction xs generalizing init with
  | nil =>
    simp only [List.forall₂_nil_left_iff, exists_eq_left, List.foldl_nil]
    exact ⟨fun h => (Except.ok.inj h).symm, fun h => congrArg Except.ok h.symm⟩
  | cons x xs ih =>
    rw [List.foldlM_cons, value_bind_eq_ok_iff]
    constructor
    · rintro ⟨step, hstep, hrest⟩
      obtain ⟨y, hy, hnext⟩ := value_bind_eq_ok_iff.mp hstep
      rw [value_liftM] at hnext
      obtain rfl := Except.ok.inj hnext
      obtain ⟨ys, hys, rfl⟩ := ih.mp hrest
      exact ⟨y :: ys, .cons hy hys, rfl⟩
    · rintro ⟨ys, hys, rfl⟩
      cases hys with
      | @cons _ y _ ys hy hys =>
        refine ⟨(next init y).value, ?_, ih.mpr ⟨ys, hys, rfl⟩⟩
        rw [value_bind_ok hy, value_liftM]

/-- What every step of a loop keeps holds of the value that the loop gives. -/
theorem foldlM_keeps {f : β → α → Attempt β} {P : β → Prop} {xs : List α}
    (hstep : ∀ x ∈ xs, ∀ b b', P b → (f b x).run.value = .ok b' → P b') {init b : β}
    (hinit : P init) (h : (xs.foldlM f init).run.value = .ok b) : P b := by
  induction xs generalizing init with
  | nil =>
    obtain rfl := Except.ok.inj h
    exact hinit
  | cons x xs ih =>
    rw [List.foldlM_cons] at h
    obtain ⟨next, hnext, hrest⟩ := value_bind_eq_ok_iff.mp h
    exact ih (fun y hy => hstep y (List.mem_cons_of_mem _ hy))
      (hstep x List.mem_cons_self init next hinit hnext) hrest

/-- A list gives values only if every item gives its own. -/
theorem forall₂_of_value_mapM {f : α → Attempt β} {xs : List α} {ys : List β}
    (h : (xs.mapM f).run.value = .ok ys) :
    List.Forall₂ (fun x y => (f x).run.value = .ok y) xs ys := by
  induction xs generalizing ys with
  | nil =>
    obtain rfl := Except.ok.inj h
    exact .nil
  | cons x xs ih =>
    rw [List.mapM_cons] at h
    obtain ⟨y, hy, h⟩ := value_bind_eq_ok_iff.mp h
    obtain ⟨rest, hrest, h⟩ := value_bind_eq_ok_iff.mp h
    obtain rfl := Except.ok.inj h
    exact .cons hy (ih hrest)

/-- A list that gives values reports what its items report, one after the other. -/
theorem log_mapM {f : α → Attempt β} (notes : α → List Diagnostic) {xs : List α} {ys : List β}
    (h : (xs.mapM f).run.value = .ok ys)
    (hnotes : ∀ x ∈ xs, ∀ y, (f x).run.value = .ok y → (f x).run.log = notes x) :
    (xs.mapM f).run.log = xs.flatMap notes := by
  induction xs generalizing ys with
  | nil => rfl
  | cons x xs ih =>
    rw [List.forall_mem_cons] at hnotes
    rw [List.mapM_cons] at h ⊢
    obtain ⟨y, hy, h⟩ := value_bind_eq_ok_iff.mp h
    obtain ⟨rest, hrest, -⟩ := value_bind_eq_ok_iff.mp h
    rw [log_bind_ok hy, log_bind_ok hrest, hnotes.1 y hy, ih hrest hnotes.2,
      List.flatMap_cons]
    exact congrArg _ (List.append_nil _)

/-- When every item of a list gives a value, the list gives values, one for each item. -/
theorem exists_value_mapM_forall₂ {f : α → Attempt β} {R : α → β → Prop} {xs : List α}
    (h : ∀ x ∈ xs, ∃ y, (f x).run.value = .ok y ∧ R x y) :
    ∃ ys, (xs.mapM f).run.value = .ok ys ∧ List.Forall₂ R xs ys := by
  induction xs with
  | nil => exact ⟨[], rfl, .nil⟩
  | cons x xs ih =>
    rw [List.forall_mem_cons] at h
    obtain ⟨y, hy, hxy⟩ := h.1
    obtain ⟨ys, hys, hrest⟩ := ih h.2
    refine ⟨y :: ys, ?_, .cons hxy hrest⟩
    rw [List.mapM_cons, value_bind_ok hy, value_bind_ok hys, value_pure]

/-- When every item of a list gives a value, the list gives values, and each of them comes from an
item. -/
theorem exists_value_mapM {f : α → Attempt β} {R : α → β → Prop} {xs : List α}
    (h : ∀ x ∈ xs, ∃ y, (f x).run.value = .ok y ∧ R x y) :
    ∃ ys, (xs.mapM f).run.value = .ok ys ∧ ∀ y ∈ ys, ∃ x ∈ xs, R x y := by
  obtain ⟨ys, hys, hpairs⟩ := exists_value_mapM_forall₂ h
  exact ⟨ys, hys, fun y hy => exists_left_of_mem hpairs hy⟩

end Attempt

end PsetCompiler
