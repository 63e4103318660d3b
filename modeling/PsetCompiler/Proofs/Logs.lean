import PsetCompiler.Proofs.Outcome

/-!
# Reports of a kind

What a computation reports is often known as far as its kind goes: that it is no warning, that it
comes from one work.  A kind is handed on by every way to build a computation, whatever the values
on the way are.  Where the reports themselves are asked for, a sequence has those of its parts, and
a loop those of its steps.

## Main definitions

* `Report.Logs`, `Attempt.Logs`, `Run.Logs` — all reports are of a kind.
* `Run.log` — the reports of a run from a state.

## Main results

* `Run.log_bind_ok` — the reports of a sequence.
* `Run.filter_log_forM` — the reports of a loop that are asked for.
-/

namespace PsetCompiler

variable {σ α β : Type} {P Q : Diagnostic → Prop}

/-! ### Reports of a kind -/

/-- All reports are of a kind. -/
def Report.Logs (P : Diagnostic → Prop) (x : Report α) : Prop :=
  ∀ d ∈ x.log, P d

namespace Report.Logs

theorem quiet (x : Report α) (h : x.log = []) : x.Logs P := by
  intro d hd
  rw [h] at hd
  cases hd

theorem pure (a : α) : (Pure.pure a : Report α).Logs P :=
  quiet _ rfl

theorem report {d : Diagnostic} (h : P d) : (PsetCompiler.report d).Logs P := by
  intro d' hd'
  rw [List.mem_singleton.mp hd']
  exact h

theorem bind {x : Report α} {f : α → Report β} (hx : x.Logs P) (hf : ∀ a, (f a).Logs P) :
    (x >>= f).Logs P := by
  intro d hd
  rw [Report.log_bind] at hd
  rcases List.mem_append.mp hd with hd | hd
  · exact hx d hd
  · exact hf _ d hd

theorem reported {d : Diagnostic} (h : P d) (a : α) :
    (PsetCompiler.report d >>= fun _ => Pure.pure a).Logs P :=
  .bind (.report h) fun _ => .pure a

theorem mono {x : Report α} (hx : x.Logs P) (h : ∀ d, P d → Q d) : x.Logs Q := by
  intro d hd
  exact h d (hx d hd)

end Report.Logs

/-- All reports of an attempt are of a kind. -/
def Attempt.Logs (P : Diagnostic → Prop) (x : Attempt α) : Prop :=
  x.run.Logs P

namespace Attempt.Logs

theorem pure (a : α) : (Pure.pure a : Attempt α).Logs P :=
  .quiet _ rfl

theorem fails (e : Failure) : (throw e : Attempt α).Logs P :=
  .quiet _ rfl

theorem ofExcept (x : Except Failure α) : (liftM x : Attempt α).Logs P :=
  .quiet _ rfl

theorem ofReport {x : Report α} (h : x.Logs P) : (liftM x : Attempt α).Logs P :=
  .bind h fun _ => .pure _

theorem bind {x : Attempt α} {f : α → Attempt β} (hx : x.Logs P) (hf : ∀ a, (f a).Logs P) :
    (x >>= f).Logs P := by
  refine Report.Logs.bind (f := fun r => (ExceptT.bindCont f r : Report _)) hx fun r => ?_
  cases r with
  | ok a => exact hf a
  | error e => exact .quiet _ rfl

theorem reported {d : Diagnostic} (h : P d) (a : α) :
    ((liftM (report d) : Attempt Unit) >>= fun _ => Pure.pure a).Logs P :=
  .bind (.ofReport (.report h)) fun _ => .pure a

theorem foldlM {f : β → α → Attempt β} {xs : List α} (h : ∀ b x, (f b x).Logs P)
    (init : β) : (xs.foldlM f init).Logs P := by
  induction xs generalizing init with
  | nil => exact .pure _
  | cons x xs ih => exact .bind (h init x) ih

theorem mono {x : Attempt α} (hx : x.Logs P) (h : ∀ d, P d → Q d) : x.Logs Q :=
  Report.Logs.mono hx h

end Attempt.Logs

/-! ### Reports of runs -/

namespace Run

/-- The reports of a run from a state. -/
def log (x : Run σ α) (s : σ) : List Diagnostic :=
  (x.result s).log

theorem log_bind (x : Run σ α) (f : α → Run σ β) (s : σ) :
    (x >>= f).log s = x.log s ++
      match x.outcome s with
      | (.ok a, s') => (f a).log s'
      | (.error _, _) => [] := by
  show ((x.result s).andThen fun r => ExceptT.bindCont f r.1 r.2).log = _
  show x.log s ++ _ = _
  unfold outcome
  rcases h : (StateT.run (ExceptT.run x) s).value with ⟨r, s'⟩
  have h' : (x.result s).value = (r, s') := h
  rw [h']
  cases r <;> rfl

theorem log_bind_ok {x : Run σ α} {s s' : σ} {a : α} (h : x.outcome s = (.ok a, s'))
    (f : α → Run σ β) : (x >>= f).log s = x.log s ++ (f a).log s' := by
  rw [log_bind, h]

/-- A value that is made of another one is no report. -/
theorem log_bind_pure (x : Run σ α) (f : α → β) (s : σ) :
    (x >>= fun a => pure (f a)).log s = x.log s := by
  rw [log_bind]
  split
  · exact List.append_nil _
  · exact List.append_nil _

/-- A computation without a state reports what it does. -/
theorem log_onState (x : Attempt α) (s : σ) : (x.onState : Run σ α).log s = x.run.log :=
  List.append_nil _

/-- Those reports of a loop that are asked for are those of its steps, if no step fails. -/
theorem filter_log_forM {f : α → Run σ Unit} {asked : Diagnostic → Bool}
    {notes : α → List Diagnostic} {xs : List α}
    (hends : ∀ x ∈ xs, ∀ s, ∃ s', (f x).outcome s = (.ok (), s'))
    (hnotes : ∀ x ∈ xs, ∀ s, ((f x).log s).filter asked = notes x) (s : σ) :
    ((xs.forM f).log s).filter asked = xs.flatMap notes := by
  induction xs generalizing s with
  | nil => rfl
  | cons x xs ih =>
    rw [List.forall_mem_cons] at hends hnotes
    obtain ⟨s', hfirst⟩ := hends.1 s
    show ((f x >>= fun _ => xs.forM f).log s).filter asked = _
    rw [log_bind_ok hfirst, List.filter_append, hnotes.1, ih hends.2 hnotes.2, List.flatMap_cons]

/-- All reports of a run are of a kind, whatever state it starts from. -/
def Logs (P : Diagnostic → Prop) (x : Run σ α) : Prop :=
  ∀ s, ∀ d ∈ x.log s, P d

namespace Logs

theorem quiet {x : Run σ α} (h : ∀ s, x.log s = []) : x.Logs P := by
  intro s d hd
  rw [h] at hd
  cases hd

theorem pure (a : α) : (Pure.pure a : Run σ α).Logs P :=
  .quiet fun _ => rfl

theorem get : (MonadState.get : Run σ σ).Logs P :=
  .quiet fun _ => rfl

theorem set (s : σ) : (MonadStateOf.set s : Run σ PUnit).Logs P :=
  .quiet fun _ => rfl

theorem ofExcept (x : Except Failure α) : (Run.ofExcept x : Run σ α).Logs P := by
  refine .quiet fun s => ?_
  rw [log, result_ofExcept]
  rfl

theorem ofReport {x : Report α} (h : x.Logs P) : (liftM x : Run σ α).Logs P := by
  intro s d hd
  rw [log, result_liftM] at hd
  exact h d hd

theorem bind {x : Run σ α} {f : α → Run σ β} (hx : x.Logs P) (hf : ∀ a, (f a).Logs P) :
    (x >>= f).Logs P := by
  intro s d hd
  rw [log_bind, List.mem_append] at hd
  rcases hd with hd | hd
  · exact hx s d hd
  · split at hd
    · exact hf _ _ d hd
    · cases hd

theorem map {x : Run σ α} (hx : x.Logs P) (f : α → β) : (f <$> x).Logs P := by
  rw [map_eq_pure_bind]
  exact .bind hx fun _ => .pure _

end Logs

end Run

end PsetCompiler
