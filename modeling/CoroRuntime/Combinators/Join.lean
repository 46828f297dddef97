import CoroRuntime.Combinators.Branches

/-! # `JoinFuture` -/

namespace CoroRuntime.Combinators

open Future

variable {n : Nat} {Output : Fin n → Type} {Exception : Type}

structure JoinFuture (Output : Fin n → Type) (Exception : Type) where
  states : Fin n → BranchState
  results : (branch : Fin n) → Option (Output branch)
  exception : Option Exception
  pollStart : Nat

namespace JoinFuture

variable (cancellable : Fin n → Bool) (taskCancelled : Exception)

def new : JoinFuture Output Exception where
  states := fun _ => .active
  results := fun _ => none
  exception := none
  pollStart := 0

def allResultsReady (future : JoinFuture Output Exception) : Bool :=
  (List.finRange n).all fun branch => (future.results branch).isSome

structure ActivePass (Output : Fin n → Type) (Exception : Type) where
  future : JoinFuture Output Exception
  polls : List (BranchPoll Output Exception)

def fail (future : JoinFuture Output Exception) (exception : Exception) :
    JoinFuture Output Exception :=
  { future with
    exception := some exception
    states := cancelActive cancellable future.states }

def resolve (future : JoinFuture Output Exception) (branch : Fin n) :
    PollResult Exception (Output branch) → JoinFuture Output Exception
  | .pending => future
  | .error exception => future.fail cancellable exception
  -- dropped without `join()` cancelling it
  | .dropped => future.fail cancellable taskCancelled
  | .ready value => { future with results := Function.update future.results branch (some value) }

def pollActiveOne (answers : Answers Output Exception) (pass : ActivePass Output Exception)
    (branch : Fin n) : ActivePass Output Exception :=
  if pass.future.states branch ≠ .active then pass
  else if answers.budgetSpent branch then pass
  else
    let result := answers.active branch
    let polls := pass.polls ++ [⟨branch, false, result⟩]
    if result.isPending then { pass with polls := polls }
    else
      let states := Function.update pass.future.states branch .done
      ⟨resolve cancellable taskCancelled { pass.future with states := states } branch result,
        polls⟩

def finish (answers : Answers Output Exception) (future : JoinFuture Output Exception)
    (polls : List (BranchPoll Output Exception)) :
    JoinFuture Output Exception × List (BranchPoll Output Exception) ×
      PollResult Exception ((branch : Fin n) → Output branch) :=
  let pass := pollDraining answers future.states
  ({ future with states := pass.states }, polls ++ pass.polls,
    if pass.anyStillDraining then .pending
    else
      match future.exception with
      | some exception => .error exception
      | none =>
        if ready : ∀ branch, (future.results branch).isSome then
          .ready fun branch => (future.results branch).get (ready branch)
        -- only called with an error or with all results
        else .pending)

def poll [NeZero n] (answers : Answers Output Exception) (future : JoinFuture Output Exception) :
    JoinFuture Output Exception × List (BranchPoll Output Exception) ×
      PollResult Exception ((branch : Fin n) → Output branch) :=
  if future.exception.isSome || future.allResultsReady then finish answers future []
  else
    let pass := (roundRobin n future.pollStart).foldl
      (pollActiveOne cancellable taskCancelled answers) ⟨future, []⟩
    let polled := { pass.future with pollStart := (future.pollStart + 1) % n }
    if polled.exception.isSome || polled.allResultsReady then finish answers polled pass.polls
    else (polled, pass.polls, .pending)

/-! ## The polls a `join()` makes -/

variable (answers : Answers Output Exception) {log : List (BranchPoll Output Exception)}

theorem resolve_done (future : JoinFuture Output Exception) (branch : Fin n)
    (result : PollResult Exception (Output branch)) (done : future.states other = .done) :
    (resolve cancellable taskCancelled future branch result).states other = .done := by
  cases result with
  | pending => exact done
  | ready value => exact done
  | error exception | dropped => exact cancelActive_done done

theorem pollActiveOne_tracked {pass : ActivePass Output Exception}
    (tracked : Tracked pass.future.states (log ++ pass.polls)) (branch : Fin n) :
    Tracked (pollActiveOne cancellable taskCancelled answers pass branch).future.states
      (log ++ (pollActiveOne cancellable taskCancelled answers pass branch).polls) := by
  unfold pollActiveOne
  split
  · exact tracked
  · rename_i active
    rw [not_not] at active
    have running : pass.future.states branch ≠ .done := by
      rw [active]
      exact nofun
    split
    · exact tracked
    · simp only
      split
      · rename_i pending
        exact tracked.waits running pending
      · exact tracked.resolves running fun _ done =>
          resolve_done cancellable taskCancelled _ branch _ done

theorem pollActive_tracked (order : List (Fin n)) (pass : ActivePass Output Exception)
    (tracked : Tracked pass.future.states (log ++ pass.polls)) :
    Tracked
      (order.foldl (pollActiveOne cancellable taskCancelled answers) pass).future.states
      (log ++ (order.foldl (pollActiveOne cancellable taskCancelled answers) pass).polls) := by
  induction order generalizing pass with
  | nil => exact tracked
  | cons branch rest induction =>
    exact induction _ (pollActiveOne_tracked cancellable taskCancelled answers tracked branch)

end JoinFuture

end CoroRuntime.Combinators
