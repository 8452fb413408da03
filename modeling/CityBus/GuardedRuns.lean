import Mathlib.Data.Set.Basic

/-!
Labelled runs of a transition system, and the runs whose steps all meet a
guard on the state before the step. An invariant is proved once for a step
and carried to every state of a run by `run_invariant`.
-/

namespace GuardedRuns

universe u v
variable {State : Type u} {Action : Type v}

inductive Run (step : State → Action → State → Prop) : State → List Action → State → Prop where
  | refl (state : State) : Run step state [] state
  | next {before middle after : State} {action : Action} {rest : List Action}
      (head : step before action middle) (tail : Run step middle rest after) :
      Run step before (action :: rest) after

/-- The steps of `step` that are taken in a state where the guard holds. -/
def guarded (guard : State → Action → Prop) (step : State → Action → State → Prop) :
    State → Action → State → Prop :=
  fun before action after => guard before action ∧ step before action after

/-- A partial step function fires where it is defined. -/
def fires (next : State → Action → Option State) : State → Action → State → Prop :=
  fun before action after => next before action = some after

def exec (next : State → Action → Option State) : State → List Action → Option State
  | state, [] => some state
  | state, action :: rest => (next state action).bind fun middle => exec next middle rest

theorem exec_run (next : State → Action → Option State) (before after : State)
    (actions : List Action) (done : exec next before actions = some after) :
    Run (fires next) before actions after := by
  induction actions generalizing before with
  | nil =>
      simp only [exec, Option.some.injEq] at done
      subst done
      exact Run.refl before
  | cons action rest ih =>
      obtain ⟨middle, head, tail⟩ := Option.bind_eq_some_iff.mp done
      exact Run.next head (ih middle tail)

theorem fires_unique {next : State → Action → Option State} {before left right : State}
    {actions : List Action} (run : Run (fires next) before actions left)
    (other : Run (fires next) before actions right) : left = right := by
  induction run with
  | refl =>
      cases other
      rfl
  | next head _ ih =>
      cases other with
      | next head' tail =>
          cases Option.some.inj (head.symm.trans head')
          exact ih tail

variable {step : State → Action → State → Prop}

theorem run_split {before after : State} {front back : List Action}
    (run : Run step before (front ++ back) after) :
    ∃ middle, Run step before front middle ∧ Run step middle back after := by
  induction front generalizing before with
  | nil => exact ⟨before, Run.refl before, run⟩
  | cons action front ih =>
      cases run with
      | next head tail =>
          obtain ⟨middle, first, last⟩ := ih tail
          exact ⟨middle, Run.next head first, last⟩

/-- What holds at the start and is kept by every step holds at the end. -/
theorem run_invariant (inv : State → Prop)
    (keeps : ∀ before action after, step before action after → inv before → inv after)
    {before after : State} {actions : List Action}
    (run : Run step before actions after) (start : inv before) : inv after := by
  induction run with
  | refl => exact start
  | next head _ ih => exact ih (keeps _ _ _ head start)

/-- What holds at the end and not at the start came about at a step of the run, if
only certain steps bring it about. -/
theorem run_origin (holds : State → Prop) (causes : State → Action → Prop)
    (origin : ∀ before action after, step before action after → holds after →
      holds before ∨ causes before action)
    {before after : State} {actions : List Action} (run : Run step before actions after)
    (now : holds after) :
    holds before ∨ ∃ front action rest middle, actions = front ++ action :: rest ∧
      Run step before front middle ∧ causes middle action := by
  induction run with
  | refl => exact Or.inl now
  | @next before middle after action rest head tail ih =>
      rcases ih now with held | ⟨front, cause, later, state, rfl, run, caused⟩
      · rcases origin before action middle head held with start | caused
        · exact Or.inl start
        · exact Or.inr ⟨[], action, rest, before, rfl, Run.refl before, caused⟩
      · exact Or.inr ⟨action :: front, cause, later, state, rfl, Run.next head run, caused⟩

theorem run_mono {wide : State → Action → State → Prop}
    (wider : ∀ before action after, step before action after → wide before action after)
    {before after : State} {actions : List Action} (run : Run step before actions after) :
    Run wide before actions after := by
  induction run with
  | refl state => exact Run.refl state
  | next head _ ih => exact Run.next (wider _ _ _ head) ih

theorem guarded_run_forget {guard : State → Action → Prop} {before after : State}
    {actions : List Action} (run : Run (guarded guard step) before actions after) :
    Run step before actions after :=
  run_mono (fun _ _ _ taken => taken.2) run

end GuardedRuns
