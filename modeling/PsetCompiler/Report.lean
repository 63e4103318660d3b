import PsetCompiler.Diagnostic

/-!
# Reporting and failing

A computation that reports gives its value together with its reports, in order. One that can also
fail keeps the reports made before the failure, and one with a state keeps the state as the failure
left it.

## Main definitions

* `Report` — a value with its reports.
* `report` — one report.
* `Attempt` — a computation that reports and can fail.
* `Run` — a computation on a state that reports and can fail.
-/

namespace PsetCompiler

/-- A value together with the reports made on the way to it. -/
structure Report (α : Type) where
  value : α
  log : List Diagnostic := []

namespace Report

variable {α β γ : Type}

/-- The second computation after the first, with the reports of both. -/
def andThen (x : Report α) (f : α → Report β) : Report β :=
  let y := f x.value
  ⟨y.value, x.log ++ y.log⟩

instance : Monad Report where
  pure a := ⟨a, []⟩
  bind := andThen

@[simp] theorem value_pure (a : α) : (pure a : Report α).value = a := rfl

@[simp] theorem log_pure (a : α) : (pure a : Report α).log = [] := rfl

@[simp] theorem value_bind (x : Report α) (f : α → Report β) :
    (x >>= f).value = (f x.value).value := rfl

@[simp] theorem log_bind (x : Report α) (f : α → Report β) :
    (x >>= f).log = x.log ++ (f x.value).log := rfl

theorem ext {x y : Report α} (hv : x.value = y.value) (hl : x.log = y.log) : x = y := by
  cases x
  cases y
  simp_all

instance : LawfulMonad Report :=
  LawfulMonad.mk' Report
    (fun _ => ext rfl (by simp [Functor.map, andThen]))
    (fun _ _ => ext rfl (by simp [bind, andThen, pure]))
    (fun _ _ _ => ext rfl (by simp [bind, andThen]))

end Report

/-- One report. -/
def report (d : Diagnostic) : Report Unit :=
  ⟨(), [d]⟩

/-- A computation that reports and can fail. -/
abbrev Attempt := ExceptT Failure Report

/-- A computation on a state that reports and can fail; a failure keeps the state it left. -/
abbrev Run (σ : Type) := ExceptT Failure (StateT σ Report)

/-- What comes of a computation, be it a value or a failure; this never fails itself. -/
def Attempt.outcome {α : Type} (x : Attempt α) : Attempt (Except Failure α) :=
  ExceptT.lift x.run

/-- A failing computation without a state, run where there is one. -/
def Attempt.onState {σ α : Type} (x : Attempt α) : Run σ α :=
  fun state => do
    let result ← x.run
    return (result, state)

/-- A result or a failure, without touching the state. -/
def Run.ofExcept {σ α : Type} : Except Failure α → Run σ α
  | .ok a => pure a
  | .error e => throw e

/-- A record that was read, or the failure that lists its problems. -/
def Checked.toExcept {α : Type} : Checked α → Except Failure α
  | .ok a => .ok a
  | .bad problems => .error (.invalid problems)

end PsetCompiler
