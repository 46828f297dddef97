import CoroRuntime.Combinators.Select
import CoroRuntime.Combinators.Join

/-! # Polls that an exception may leave

`SelectFuture` and `JoinFuture` do not catch what their branches throw. A call of a branch's
`poll()` that throws ends the call of the combined future's `poll()` where it stands.
-/

namespace CoroRuntime.Combinators

open Foundation Future

/-- What a call of `poll()` does: it returns, or an exception leaves it. -/
abbrev Call (Exception T : Type) := Except Exception (PollResult Exception T)

def Call.result {Exception T : Type} : Call Exception T → PollResult Exception T
  | .ok result => result
  | .error exception => .error exception

variable {n : Nat} {Output : Fin n → Type} {Exception : Type}

/-- How the calls of the branches' `poll()` end during one poll of the combined future. -/
structure Calls (Output : Fin n → Type) (Exception : Type) where
  active : (branch : Fin n) → Call Exception (Output branch)
  draining : (branch : Fin n) → Call Exception (Output branch)
  budgetSpent : Fin n → Bool

namespace Calls

def results (calls : Calls Output Exception) : Answers Output Exception where
  active := fun branch => (calls.active branch).result
  draining := fun branch => (calls.draining branch).result
  budgetSpent := calls.budgetSpent

structure Return (calls : Calls Output Exception) : Prop where
  active : ∀ branch exception, calls.active branch ≠ .error exception
  draining : ∀ branch exception, calls.draining branch ≠ .error exception

end Calls

/-! ## Draining -/

/-- A pass over the branches, up to the first one whose call throws. -/
def passUntil {Pass : Type} (turn : Pass → Fin n → Pass × Option Exception) :
    List (Fin n) → Pass → Pass × Option Exception
  | [], pass => (pass, none)
  | branch :: rest, pass =>
    match turn pass branch with
    | (next, some exception) => (next, some exception)
    | (next, none) => passUntil turn rest next

def callDrainingOne (calls : Calls Output Exception) (pass : DrainPass Output Exception)
    (branch : Fin n) : DrainPass Output Exception × Option Exception :=
  if pass.states branch ≠ .draining then (pass, none)
  else
    match calls.draining branch with
    | .error exception => (pass, some exception)
    | .ok _ => (pollDrainingOne calls.results pass branch, none)

def callDraining (calls : Calls Output Exception) (states : Fin n → BranchState) :
    DrainPass Output Exception × Option Exception :=
  passUntil (callDrainingOne calls) (List.finRange n) ⟨states, false, []⟩

/-! ## `SelectFuture` -/

namespace SelectFuture

variable (cancellable : Fin n → Bool) (taskCancelled : Exception)

def callActiveOne (calls : Calls Output Exception) (pass : ActivePass Output Exception)
    (branch : Fin n) : ActivePass Output Exception × Option Exception :=
  if pass.future.states branch ≠ .active then (pass, none)
  else if calls.budgetSpent branch then (pass, none)
  else
    match calls.active branch with
    | .error exception => (pass, some exception)
    | .ok _ => (pollActiveOne cancellable taskCancelled calls.results pass branch, none)

def callActive (calls : Calls Output Exception) :
    List (Fin n) → ActivePass Output Exception → ActivePass Output Exception × Option Exception
  | [], pass => (pass, none)
  | branch :: rest, pass =>
    match callActiveOne cancellable taskCancelled calls pass branch with
    | (next, some exception) => (next, some exception)
    | (next, none) => if next.found then (next, none) else callActive calls rest next

def callFinish (calls : Calls Output Exception) (future : SelectFuture Output Exception)
    (polls : List (BranchPoll Output Exception)) :
    SelectFuture Output Exception × List (BranchPoll Output Exception) ×
      Call Exception ((branch : Fin n) × Output branch) :=
  match callDraining calls future.states with
  | (pass, some exception) =>
    ({ future with states := pass.states }, polls ++ pass.polls, .error exception)
  | (_, none) =>
    let (future, polls, result) := finish calls.results future polls
    (future, polls, .ok result)

/-- `SelectFuture::poll`. When a branch throws, `m_poll_start` is not moved on. -/
def call [NeZero n] (calls : Calls Output Exception) (future : SelectFuture Output Exception) :
    SelectFuture Output Exception × List (BranchPoll Output Exception) ×
      Call Exception ((branch : Fin n) × Output branch) :=
  if future.decided then callFinish calls future []
  else
    match callActive cancellable taskCancelled calls (roundRobin n future.pollStart)
        ⟨future, [], false⟩ with
    | (pass, some exception) => (pass.future, pass.polls, .error exception)
    | (pass, none) =>
      let polled := { pass.future with pollStart := (future.pollStart + 1) % n }
      if polled.decided then callFinish calls polled pass.polls
      else (polled, pass.polls, .ok .pending)

end SelectFuture

/-! ## `JoinFuture` -/

namespace JoinFuture

variable (cancellable : Fin n → Bool) (taskCancelled : Exception)

def callActiveOne (calls : Calls Output Exception) (pass : ActivePass Output Exception)
    (branch : Fin n) : ActivePass Output Exception × Option Exception :=
  if pass.future.states branch ≠ .active then (pass, none)
  else if calls.budgetSpent branch then (pass, none)
  else
    match calls.active branch with
    | .error exception => (pass, some exception)
    | .ok _ => (pollActiveOne cancellable taskCancelled calls.results pass branch, none)

def callFinish (calls : Calls Output Exception) (future : JoinFuture Output Exception)
    (polls : List (BranchPoll Output Exception)) :
    JoinFuture Output Exception × List (BranchPoll Output Exception) ×
      Call Exception ((branch : Fin n) → Output branch) :=
  match callDraining calls future.states with
  | (pass, some exception) =>
    ({ future with states := pass.states }, polls ++ pass.polls, .error exception)
  | (_, none) =>
    let (future, polls, result) := finish calls.results future polls
    (future, polls, .ok result)

def call [NeZero n] (calls : Calls Output Exception) (future : JoinFuture Output Exception) :
    JoinFuture Output Exception × List (BranchPoll Output Exception) ×
      Call Exception ((branch : Fin n) → Output branch) :=
  if future.exception.isSome || future.allResultsReady then callFinish calls future []
  else
    match passUntil (callActiveOne cancellable taskCancelled calls)
        (roundRobin n future.pollStart) ⟨future, []⟩ with
    | (pass, some exception) => (pass.future, pass.polls, .error exception)
    | (pass, none) =>
      let polled := { pass.future with pollStart := (future.pollStart + 1) % n }
      if polled.exception.isSome || polled.allResultsReady then
        callFinish calls polled pass.polls
      else (polled, pass.polls, .ok .pending)

end JoinFuture

/-! ## Calls that return -/

section Return

variable {calls : Calls Output Exception}

theorem Calls.Return.active_eq (returns : calls.Return) (branch : Fin n) :
    ∃ result, calls.active branch = .ok result := by
  cases is : calls.active branch with
  | error exception => exact absurd is (returns.active branch exception)
  | ok result => exact ⟨result, rfl⟩

theorem Calls.Return.draining_eq (returns : calls.Return) (branch : Fin n) :
    ∃ result, calls.draining branch = .ok result := by
  cases is : calls.draining branch with
  | error exception => exact absurd is (returns.draining branch exception)
  | ok result => exact ⟨result, rfl⟩

theorem passUntil_eq_foldl {quiet : Pass → Fin n → Pass}
    (same : ∀ pass branch, turn pass branch = (quiet pass branch, none)) (order : List (Fin n))
    (pass : Pass) : passUntil turn order pass = (order.foldl quiet pass, none) := by
  induction order generalizing pass with
  | nil => rfl
  | cons branch rest induction =>
    simp only [passUntil, same]
    exact induction _

theorem callDrainingOne_eq (returns : calls.Return) (pass : DrainPass Output Exception)
    (branch : Fin n) :
    callDrainingOne calls pass branch = (pollDrainingOne calls.results pass branch, none) := by
  rcases returns.draining_eq branch with ⟨result, is⟩
  unfold callDrainingOne
  split
  · rename_i other
    simp [pollDrainingOne, other]
  · simp [is]

theorem callDraining_eq (returns : calls.Return) (states : Fin n → BranchState) :
    callDraining calls states = (pollDraining calls.results states, none) :=
  passUntil_eq_foldl (callDrainingOne_eq returns) _ _

namespace SelectFuture

variable (cancellable : Fin n → Bool) (taskCancelled : Exception)

variable (returns : calls.Return)

include returns

theorem callActiveOne_eq (pass : ActivePass Output Exception) (branch : Fin n) :
    callActiveOne cancellable taskCancelled calls pass branch =
      (pollActiveOne cancellable taskCancelled calls.results pass branch, none) := by
  rcases returns.active_eq branch with ⟨result, is⟩
  unfold callActiveOne
  split
  · rename_i other
    simp [pollActiveOne, other]
  · split
    · rename_i active spent
      simp [pollActiveOne, Calls.results, spent]
    · simp [is]

theorem callActive_eq (order : List (Fin n)) (pass : ActivePass Output Exception) :
    callActive cancellable taskCancelled calls order pass =
      (pollActive cancellable taskCancelled calls.results order pass, none) := by
  induction order generalizing pass with
  | nil => rfl
  | cons branch rest induction =>
    simp only [callActive, pollActive, callActiveOne_eq cancellable taskCancelled returns]
    split
    · rfl
    · exact induction _

theorem callFinish_eq (future : SelectFuture Output Exception)
    (polls : List (BranchPoll Output Exception)) :
    callFinish calls future polls =
      ((finish calls.results future polls).1, (finish calls.results future polls).2.1,
        .ok (finish calls.results future polls).2.2) := by
  simp only [callFinish, callDraining_eq returns]

theorem call_eq [NeZero n] (future : SelectFuture Output Exception) :
    call cancellable taskCancelled calls future =
      ((poll cancellable taskCancelled calls.results future).1,
        (poll cancellable taskCancelled calls.results future).2.1,
        .ok (poll cancellable taskCancelled calls.results future).2.2) := by
  simp only [call, poll, callActive_eq cancellable taskCancelled returns, callFinish_eq returns]
  split
  · rfl
  · split <;> rfl

end SelectFuture

namespace JoinFuture

variable (cancellable : Fin n → Bool) (taskCancelled : Exception)

theorem callActiveOne_eq (returns : calls.Return) (pass : ActivePass Output Exception)
    (branch : Fin n) :
    callActiveOne cancellable taskCancelled calls pass branch =
      (pollActiveOne cancellable taskCancelled calls.results pass branch, none) := by
  rcases returns.active_eq branch with ⟨result, is⟩
  unfold callActiveOne
  split
  · rename_i other
    simp [pollActiveOne, other]
  · split
    · rename_i active spent
      simp [pollActiveOne, Calls.results, spent]
    · simp [is]

theorem callFinish_eq (returns : calls.Return) (future : JoinFuture Output Exception)
    (polls : List (BranchPoll Output Exception)) :
    callFinish calls future polls =
      ((finish calls.results future polls).1, (finish calls.results future polls).2.1,
        .ok (finish calls.results future polls).2.2) := by
  simp only [callFinish, callDraining_eq returns]

theorem call_eq [NeZero n] (returns : calls.Return) (future : JoinFuture Output Exception) :
    call cancellable taskCancelled calls future =
      ((poll cancellable taskCancelled calls.results future).1,
        (poll cancellable taskCancelled calls.results future).2.1,
        .ok (poll cancellable taskCancelled calls.results future).2.2) := by
  simp only [call, poll, callFinish_eq returns,
    passUntil_eq_foldl (callActiveOne_eq cancellable taskCancelled returns)]
  split
  · rfl
  · split <;> rfl

end JoinFuture

end Return

end CoroRuntime.Combinators
