import CoroRuntime.Foundation.Execution
import CoroRuntime.Future.Handles
import Mathlib.Algebra.GroupWithZero.Nat
import Mathlib.Data.Fin.Basic
import Mathlib.Data.List.FinRange
import Mathlib.Data.List.Pairwise

/-! # The branches of a combined future

What `select()` and `join()` share: the state of each branch, cancelling branches
and draining the cancelled ones. A branch is known by the answers it gives to its
polls, which the environment chooses.
-/

namespace CoroRuntime.Combinators

open Foundation Future

inductive BranchState
  | active
  | draining
  | done
  deriving DecidableEq, Repr

section Branches

variable {n : Nat} (Output : Fin n → Type) (Exception : Type)

structure BranchPoll where
  branch : Fin n
  /-- Whether the branch had been cancelled. -/
  draining : Bool
  outcome : PollResult Exception (Output branch)

/-- How the branches answer during one poll of the combined future: to a poll while
they are active and to a poll after they were cancelled, and whether the task's
budget is spent when an active branch's turn comes. -/
structure Answers where
  active : (branch : Fin n) → PollResult Exception (Output branch)
  draining : (branch : Fin n) → PollResult Exception (Output branch)
  budgetSpent : Fin n → Bool

end Branches

variable {n : Nat} {Output : Fin n → Type} {Exception : Type}

/-! ## Cancelling -/

/-- Cancel a branch that is still active. A branch that is not `Cancellable` is
dropped at once. -/
def cancelOne (cancellable : Fin n → Bool) (states : Fin n → BranchState) (branch : Fin n) :
    Fin n → BranchState :=
  if states branch = .active then
    Function.update states branch (if cancellable branch then .draining else .done)
  else states

def cancelOthers (cancellable : Fin n → Bool) (winner : Fin n)
    (states : Fin n → BranchState) : Fin n → BranchState :=
  (List.finRange n).foldl
    (fun states branch => if branch ≠ winner then cancelOne cancellable states branch else states)
    states

def cancelActive (cancellable : Fin n → Bool) (states : Fin n → BranchState) :
    Fin n → BranchState :=
  (List.finRange n).foldl (cancelOne cancellable) states

/-! ## Draining -/

structure DrainPass (Output : Fin n → Type) (Exception : Type) where
  states : Fin n → BranchState
  anyStillDraining : Bool
  polls : List (BranchPoll Output Exception)

def pollDrainingOne (answers : Answers Output Exception) (pass : DrainPass Output Exception)
    (branch : Fin n) : DrainPass Output Exception :=
  if pass.states branch ≠ .draining then pass
  else
    let result := answers.draining branch
    let polls := pass.polls ++ [⟨branch, true, result⟩]
    if result.isDropped then
      { pass with states := Function.update pass.states branch .done, polls := polls }
    else
      { pass with anyStillDraining := true, polls := polls }

def pollDraining (answers : Answers Output Exception) (states : Fin n → BranchState) :
    DrainPass Output Exception :=
  (List.finRange n).foldl (pollDrainingOne answers) ⟨states, false, []⟩

def roundRobin (n : Nat) [NeZero n] (pollStart : Nat) : List (Fin n) :=
  (List.range n).map fun offset => Fin.ofNat n (pollStart + offset)

/-! ## Polls on record -/

/-- No branch is polled after it has returned something other than Pending, and the
branches that have are done. -/
structure Tracked (states : Fin n → BranchState) (log : List (BranchPoll Output Exception)) :
    Prop where
  once : log.Pairwise fun earlier later =>
    later.branch = earlier.branch → earlier.outcome.isPending = true
  finished : ∀ poll ∈ log, poll.outcome.isPending = false → states poll.branch = .done

namespace Tracked

variable {states after : Fin n → BranchState} {log : List (BranchPoll Output Exception)}

theorem nil : Tracked states ([] : List (BranchPoll Output Exception)) :=
  ⟨List.Pairwise.nil, nofun⟩

theorem poll (tracked : Tracked states log) (running : states entry.branch ≠ .done)
    (kept : ∀ branch, states branch = .done → after branch = .done)
    (resolves : entry.outcome.isPending = false → after entry.branch = .done) :
    Tracked after (log ++ [entry]) := by
  constructor
  · rw [List.pairwise_append]
    refine ⟨tracked.once, List.pairwise_singleton _ _, ?_⟩
    intro earlier member later isEntry sameBranch
    rw [List.mem_singleton] at isEntry
    subst isEntry
    by_contra resolved
    rw [Bool.not_eq_true] at resolved
    apply running
    rw [sameBranch]
    exact tracked.finished earlier member resolved
  · intro poll member resolved
    rcases List.mem_append.mp member with old | new
    · exact kept _ (tracked.finished poll old resolved)
    · rw [List.mem_singleton] at new
      subst new
      exact resolves resolved

theorem waits (tracked : Tracked states (log ++ polls)) (running : states entry.branch ≠ .done)
    (pending : entry.outcome.isPending = true) : Tracked states (log ++ (polls ++ [entry])) := by
  rw [← List.append_assoc]
  apply tracked.poll running (fun _ done => done)
  intro resolved
  rw [pending] at resolved
  exact nomatch resolved

theorem resolves (tracked : Tracked states (log ++ polls)) (running : states entry.branch ≠ .done)
    (kept : ∀ branch, Function.update states entry.branch .done branch = .done →
      after branch = .done) : Tracked after (log ++ (polls ++ [entry])) := by
  rw [← List.append_assoc]
  refine tracked.poll running ?_ ?_
  · intro branch done
    apply kept
    by_cases same : branch = entry.branch
    · rw [same, Function.update_self]
    · rw [Function.update_of_ne same]
      exact done
  · intro _
    exact kept _ (Function.update_self ..)

end Tracked

theorem cancelOne_done (done : states other = .done) :
    cancelOne cancellable states branch other = .done := by
  unfold cancelOne
  split
  · rename_i active
    have different : other ≠ branch := by
      intro same
      subst same
      rw [done] at active
      exact nomatch active
    rw [Function.update_of_ne different]
    exact done
  · exact done

/-- A pass over the branches leaves a branch done if each of its turns does. -/
theorem foldl_done
    (keeps : ∀ states branch, states other = .done → turn states branch other = .done)
    (order : List (Fin n)) {states : Fin n → BranchState} (done : states other = .done) :
    order.foldl turn states other = .done := by
  induction order generalizing states with
  | nil => exact done
  | cons branch rest induction => exact induction (keeps states branch done)

theorem cancelOthers_done (done : states other = .done) :
    cancelOthers cancellable winner states other = .done := by
  apply foldl_done _ _ done
  intro current branch currentDone
  split
  · exact cancelOne_done currentDone
  · exact currentDone

theorem cancelActive_done (done : states other = .done) :
    cancelActive cancellable states other = .done :=
  foldl_done (fun _ _ => cancelOne_done) _ done

/-- Every branch that was cancelled answers its polls with Pending or Dropped. -/
def drainsToDropped (answers : Answers Output Exception) : Prop :=
  ∀ branch, answers.draining branch = .pending ∨ answers.draining branch = .dropped

/-- What the drain pass does when cancelled branches only ever drain to Dropped. -/
structure Drained (log : List (BranchPoll Output Exception))
    (pass : DrainPass Output Exception) : Prop where
  tracked : Tracked pass.states (log ++ pass.polls)
  waits : pass.anyStillDraining = true →
    ∃ poll ∈ pass.polls, poll.draining = true ∧ poll.outcome.isPending = true

theorem pollDrainingOne_drained (drains : drainsToDropped answers)
    {pass : DrainPass Output Exception} (drained : Drained log pass) (branch : Fin n) :
    Drained log (pollDrainingOne answers pass branch) := by
  unfold pollDrainingOne
  split
  · exact drained
  · rename_i draining
    rw [not_not] at draining
    have running : pass.states branch ≠ .done := by
      rw [draining]
      exact nofun
    rcases drains branch with pending | dropped
    · rw [pending]
      refine ⟨drained.tracked.waits running rfl, ?_⟩
      intro _
      exact ⟨_, List.mem_append_right _ (List.mem_singleton_self _), rfl, rfl⟩
    · rw [dropped]
      refine ⟨drained.tracked.resolves running fun _ done => done, ?_⟩
      intro still
      rcases drained.waits still with ⟨poll, member, waiting⟩
      exact ⟨poll, List.mem_append_left _ member, waiting⟩

theorem pollDraining_drained (drains : drainsToDropped answers) (tracked : Tracked states log) :
    Drained log (pollDraining answers states) := by
  unfold pollDraining
  refine List.foldlRecOn (motive := Drained log) _ _ ⟨?_, nofun⟩ ?_
  · simpa using tracked
  · intro pass drained branch _
    exact pollDrainingOne_drained drains drained branch

end CoroRuntime.Combinators
