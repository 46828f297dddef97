import Mathlib.Logic.Function.Basic

/-! # Executions of scheduled machines

A machine whose moves are chosen by an outside scheduler. A move that the
current state does not allow has no successor. Everything here is independent
of what the states and the moves are.
-/

namespace CoroRuntime.Foundation

theorem of_guard {State : Type u} {guard : Prop} [Decidable guard] {target next : State}
    (stepped : (if guard then some target else none) = some next) : guard ∧ target = next := by
  simpa using stepped

theorem of_unless {State : Type u} {guard : Prop} [Decidable guard] {target next : State}
    (stepped : (if guard then none else some target) = some next) : ¬guard ∧ target = next := by
  simpa using stepped

structure Machine (State : Type u) (Action : Type v) where
  initial : State
  step : State → Action → Option State

namespace Machine

variable {State : Type u} {Action : Type v}

/-- The runs all of whose moves satisfy `admits` in the state they are made in. -/
inductive Path (machine : Machine State Action) (admits : State → Action → Prop) :
    State → List Action → State → Prop
  | nil (state) : Path machine admits state [] state
  | cons {state middle final action actions} :
      admits state action →
      machine.step state action = some middle →
      Path machine admits middle actions final →
      Path machine admits state (action :: actions) final

def anyMove : State → Action → Prop := fun _ _ => True

instance (state : State) (action : Action) : Decidable (anyMove state action) :=
  isTrue trivial

/-- Perform a schedule; `none` when some move of it is not allowed or not
admitted. -/
def run (machine : Machine State Action) (admits : State → Action → Prop)
    [∀ state action, Decidable (admits state action)] :
    State → List Action → Option State
  | state, [] => some state
  | state, action :: rest =>
    if admits state action then
      (machine.step state action).bind (machine.run admits · rest)
    else none

abbrev exec (machine : Machine State Action) (admits : State → Action → Prop)
    [∀ state action, Decidable (admits state action)] (actions : List Action) : Option State :=
  machine.run admits machine.initial actions

def Reaches (machine : Machine State Action) (admits : State → Action → Prop)
    (state : State) : Prop :=
  ∃ actions, machine.Path admits machine.initial actions state

namespace Path

section

variable {machine : Machine State Action}

theorem snoc (path : machine.Path admits start actions middle) (admitted : admits middle action)
    (step : machine.step middle action = some final) :
    machine.Path admits start (actions ++ [action]) final := by
  induction path with
  | nil => exact .cons admitted step (.nil _)
  | cons firstAdmitted firstStep _ induction =>
    exact .cons firstAdmitted firstStep (induction admitted step)

theorem invariant (holds : State → Prop)
    (preserved : ∀ state action next, holds state → admits state action →
      machine.step state action = some next → holds next)
    (path : machine.Path admits start actions final) (initially : holds start) : holds final := by
  induction path with
  | nil => exact initially
  | cons admitted step _ induction =>
    exact induction (preserved _ _ _ initially admitted step)

theorem mono (wider : ∀ state action, admits state action → allows state action)
    (path : machine.Path admits start actions final) : machine.Path allows start actions final := by
  induction path with
  | nil => exact .nil _
  | cons admitted step _ induction => exact .cons (wider _ _ admitted) step induction

end

def Visits (machine : Machine State Action) (admits : State → Action → Prop)
    (holds : State → Prop) (start : State) (actions : List Action) (final : State) : Prop :=
  ∃ before after middle, actions = before ++ after ∧ machine.Path admits start before middle ∧
    holds middle ∧ machine.Path admits middle after final

/-- While a goal is not met, the moves that count lower the rank and no other raises it. So
a run that avoids the goal has no more such moves than its start allows. -/
theorem visits_or_rank (goal holds : State → Prop) (rank : State → Nat) (counts : Action → Bool)
    (lowers : ∀ state action next, holds state → admits state action →
      machine.step state action = some next →
      goal next ∨ (holds next ∧ rank next + (counts action).toNat ≤ rank state))
    (path : machine.Path admits start actions final) (initially : holds start) :
    Visits machine admits goal start actions final ∨
      (holds final ∧ rank final + actions.countP counts ≤ rank start) := by
  induction path with
  | nil => exact .inr ⟨initially, Nat.le_refl _⟩
  | @cons state middle final action actions admitted step rest induction =>
    rcases lowers _ _ _ initially admitted step with met | ⟨held, lower⟩
    · exact .inl ⟨[action], actions, middle, rfl, .cons admitted step (.nil _), met, rest⟩
    rcases induction held with ⟨before, after, visited, split, first, met, last⟩ | ⟨held, bound⟩
    · exact .inl ⟨action :: before, after, visited, by rw [split]; rfl,
        .cons admitted step first, met, last⟩
    · refine .inr ⟨held, ?_⟩
      rw [List.countP_cons]
      cases counted : counts action <;> simp_all <;> omega

end Path

variable {machine : Machine State Action}

/-- What holds initially and survives every admitted move holds wherever the
machine gets to. -/
theorem Reaches.invariant (holds : State → Prop)
    (preserved : ∀ state action next, holds state → admits state action →
      machine.step state action = some next → holds next) (initially : holds machine.initial)
    (reached : machine.Reaches admits state) : holds state := by
  rcases reached with ⟨actions, path⟩
  exact path.invariant holds preserved initially

theorem Reaches.next {next : State} (reached : machine.Reaches admits state)
    (admitted : admits state action) (step : machine.step state action = some next) :
    machine.Reaches admits next := by
  rcases reached with ⟨actions, path⟩
  exact ⟨actions ++ [action], path.snoc admitted step⟩

/-- An invariant may use what is known of all reachable states. -/
theorem Reaches.invariant_given {known : State → Prop}
    (knows : ∀ {state}, machine.Reaches admits state → known state) (holds : State → Prop)
    (preserved : ∀ state action next, known state → holds state → admits state action →
      machine.step state action = some next → holds next) (initially : holds machine.initial)
    (reached : machine.Reaches admits state) : holds state := by
  have both : machine.Reaches admits state ∧ holds state := by
    refine reached.invariant (fun state => machine.Reaches admits state ∧ holds state) ?_ ?_
    · intro state action next ⟨reached, held⟩ admitted step
      exact ⟨reached.next admitted step,
        preserved state action next (knows reached) held admitted step⟩
    · exact ⟨⟨[], .nil _⟩, initially⟩
  exact both.2

theorem path_of_run [∀ state action, Decidable (admits state action)]
    (ran : machine.run admits start actions = some final) :
    machine.Path admits start actions final := by
  induction actions generalizing start with
  | nil =>
    cases ran
    exact .nil _
  | cons action rest induction =>
    simp only [run, Option.ite_none_right_eq_some] at ran
    rcases Option.bind_eq_some_iff.mp ran.2 with ⟨middle, step, remaining⟩
    exact .cons ran.1 step (induction remaining)

theorem path_run (machine : Machine State Action) (admits : State → Action → Prop)
    [∀ state action, Decidable (admits state action)] (start : State) (actions : List Action)
    (runs : (machine.run admits start actions).isSome) :
    machine.Path admits start actions ((machine.run admits start actions).get runs) :=
  path_of_run (Option.some_get runs).symm

theorem reaches_exec (machine : Machine State Action) (admits : State → Action → Prop)
    [∀ state action, Decidable (admits state action)] (actions : List Action)
    (runs : (machine.exec admits actions).isSome) :
    machine.Reaches admits ((machine.exec admits actions).get runs) :=
  ⟨actions, machine.path_run admits machine.initial actions runs⟩

/-- A schedule that runs to its end gives an example of a reachable state. -/
theorem exists_of_exec [∀ state action, Decidable (admits state action)] {holds : State → Prop}
    (actions : List Action) (runs : (machine.exec admits actions).isSome)
    (found : machine.Reaches admits ((machine.exec admits actions).get runs) →
      holds ((machine.exec admits actions).get runs)) :
    ∃ state, machine.Reaches admits state ∧ holds state := by
  have reached := machine.reaches_exec admits actions runs
  exact ⟨_, reached, found reached⟩

end Machine

export Machine (anyMove exists_of_exec)

end CoroRuntime.Foundation
