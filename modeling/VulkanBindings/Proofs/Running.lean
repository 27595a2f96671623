import VulkanBindings.Proofs.Outcome

/-!
# What a program comes to

A run of the program changes a state as it goes, and may fail at any step.  `Runs`
says what holds of the value of such a program, or of its failure, each together
with the state that is left.  As for `Meets`, there is a lemma for each way in which
programs are put together.
-/

namespace VulkanBindings

variable {σ ε δ α β : Type}

/-- From a state, a program leads to a value and a state with the first property, or to
a failure and a state with the second. -/
def Runs (program : ExceptT ε (StateM σ) α) (state : σ) (value : α → σ → Prop)
    (failure : ε → σ → Prop) : Prop :=
  match program.run.run state with
  | (.ok a, later) => value a later
  | (.error e, later) => failure e later

variable {state : σ} {value : α → σ → Prop} {failure : ε → σ → Prop}

section Bind

variable {program : ExceptT ε (StateM σ) α} {next : α → ExceptT ε (StateM σ) β}

theorem run_bind : (program >>= next).run.run state =
    (ExceptT.bindCont next (program.run.run state).1).run (program.run.run state).2 := rfl

/-- Of a step only its result and the state that it leaves matter to what follows. -/
theorem run_bind_of_run {result : Except ε α} {later : σ}
    (h : program.run.run state = (result, later)) :
    (program >>= next).run.run state = (ExceptT.mk (pure result) >>= next).run.run later := by
  rw [run_bind, run_bind, h]
  rfl

theorem run_bind_ok {a : α} {later : σ} (h : program.run.run state = (.ok a, later)) :
    (program >>= next).run.run state = (next a).run.run later :=
  run_bind_of_run h

end Bind

theorem Runs.mono {program : ExceptT ε (StateM σ) α} {weaker : α → σ → Prop}
    {weakerFailure : ε → σ → Prop} (h : Runs program state value failure)
    (hvalue : ∀ a later, value a later → weaker a later)
    (hfailure : ∀ e later, failure e later → weakerFailure e later) :
    Runs program state weaker weakerFailure := by
  unfold Runs at h ⊢
  cases hresult : program.run.run state with
  | mk result later =>
    rw [hresult] at h
    cases result with
    | ok a => exact hvalue a later h
    | error e => exact hfailure e later h

end VulkanBindings
