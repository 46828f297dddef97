import CoroRuntime.Combinators.Branches

/-! # `SelectFuture` -/

namespace CoroRuntime.Combinators

open Future

variable {n : Nat} {Output : Fin n → Type} {Exception : Type}

structure SelectFuture (Output : Fin n → Type) (Exception : Type) where
  states : Fin n → BranchState
  result : Option ((branch : Fin n) × Output branch)
  exception : Option Exception
  pollStart : Nat

namespace SelectFuture

variable (cancellable : Fin n → Bool) (taskCancelled : Exception)

def new : SelectFuture Output Exception where
  states := fun _ => .active
  result := none
  exception := none
  pollStart := 0

def decided (future : SelectFuture Output Exception) : Bool :=
  future.result.isSome || future.exception.isSome

structure ActivePass (Output : Fin n → Type) (Exception : Type) where
  future : SelectFuture Output Exception
  polls : List (BranchPoll Output Exception)
  found : Bool

def resolve (future : SelectFuture Output Exception) (branch : Fin n) :
    PollResult Exception (Output branch) → SelectFuture Output Exception
  | .pending => future
  | .error exception => { future with exception := some exception }
  -- dropped without `select()` cancelling it
  | .dropped => { future with exception := some taskCancelled }
  | .ready value => { future with result := some ⟨branch, value⟩ }

def pollActiveOne (answers : Answers Output Exception) (pass : ActivePass Output Exception)
    (branch : Fin n) : ActivePass Output Exception :=
  if pass.future.states branch ≠ .active then pass
  else if answers.budgetSpent branch then pass
  else
    let result := answers.active branch
    let polls := pass.polls ++ [⟨branch, false, result⟩]
    if result.isPending then { pass with polls := polls }
    else
      let states := Function.update pass.future.states branch .done
      let resolved := resolve taskCancelled { pass.future with states := states } branch result
      ⟨{ resolved with states := cancelOthers cancellable branch states }, polls, true⟩

def pollActive (answers : Answers Output Exception) :
    List (Fin n) → ActivePass Output Exception → ActivePass Output Exception
  | [], pass => pass
  | branch :: rest, pass =>
    let next := pollActiveOne cancellable taskCancelled answers pass branch
    if next.found then next else pollActive answers rest next

def finish (answers : Answers Output Exception) (future : SelectFuture Output Exception)
    (polls : List (BranchPoll Output Exception)) :
    SelectFuture Output Exception × List (BranchPoll Output Exception) ×
      PollResult Exception ((branch : Fin n) × Output branch) :=
  let pass := pollDraining answers future.states
  ({ future with states := pass.states }, polls ++ pass.polls,
    if pass.anyStillDraining then .pending
    else
      match future.exception, future.result with
      | some exception, _ => .error exception
      | none, some result => .ready result
      -- only called with a winner
      | none, none => .pending)

def poll [NeZero n] (answers : Answers Output Exception)
    (future : SelectFuture Output Exception) :
    SelectFuture Output Exception × List (BranchPoll Output Exception) ×
      PollResult Exception ((branch : Fin n) × Output branch) :=
  if future.decided then finish answers future []
  else
    let pass := pollActive cancellable taskCancelled answers (roundRobin n future.pollStart)
      ⟨future, [], false⟩
    let polled := { pass.future with pollStart := (future.pollStart + 1) % n }
    if polled.decided then finish answers polled pass.polls
    else (polled, pass.polls, .pending)

end SelectFuture

/-! ## The polls a `select()` makes -/

namespace SelectFuture

variable (cancellable : Fin n → Bool) (taskCancelled : Exception)
  (answers : Answers Output Exception) {log : List (BranchPoll Output Exception)}

theorem pollActiveOne_tracked {pass : ActivePass Output Exception}
    (tracked : Tracked pass.future.states (log ++ pass.polls)) (branch : Fin n) :
    Tracked (pollActiveOne cancellable taskCancelled answers pass branch).future.states
      (log ++ (pollActiveOne cancellable taskCancelled answers pass branch).polls) := by
  unfold pollActiveOne
  split
  · exact tracked
  · rename_i active
    rw [not_not] at active
    have running : pass.future.states branch ≠ .done := by
      rw [active]
      exact nofun
    split
    · exact tracked
    · cases answer : answers.active branch with
      | pending => exact tracked.waits running rfl
      | _ => exact tracked.resolves running fun _ done => cancelOthers_done done

theorem pollActive_tracked (order : List (Fin n)) (pass : ActivePass Output Exception)
    (tracked : Tracked pass.future.states (log ++ pass.polls)) :
    Tracked (pollActive cancellable taskCancelled answers order pass).future.states
      (log ++ (pollActive cancellable taskCancelled answers order pass).polls) := by
  induction order generalizing pass with
  | nil => exact tracked
  | cons branch rest induction =>
    have next := pollActiveOne_tracked cancellable taskCancelled answers tracked branch
    simp only [pollActive]
    split
    · exact next
    · exact induction _ next

end SelectFuture

end CoroRuntime.Combinators
