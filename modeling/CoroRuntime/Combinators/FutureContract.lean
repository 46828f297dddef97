import CoroRuntime.Combinators.Select
import CoroRuntime.Combinators.Join

/-! # The Future contract of combined futures

A combined future is polled again and again until it returns something other than
Pending; each poll comes with the answers its branches would give.
-/

namespace CoroRuntime.Combinators

open Foundation Future

/-! ## Polling a combined future -/

section Watched

variable {n : Nat} {Output : Fin n → Type} {Exception Future Result : Type}

/-- A combined future with the polls of its branches, all of them and those of its
last poll. -/
structure Watched (Output : Fin n → Type) (Exception Future Result : Type) where
  future : Future
  log : List (BranchPoll Output Exception)
  last : List (BranchPoll Output Exception)
  outcome : PollResult Exception Result

/-- Poll the future until it returns something other than Pending. -/
def watch (new : Future)
    (poll : Answers Output Exception → Future →
      Future × List (BranchPoll Output Exception) × PollResult Exception Result) :
    Machine (Watched Output Exception Future Result) (Answers Output Exception) where
  initial := ⟨new, [], [], .pending⟩
  step watched answers :=
    if watched.outcome.isPending then
      let (future, polls, outcome) := poll answers watched.future
      some ⟨future, watched.log ++ polls, polls, outcome⟩
    else none

/-- No branch is polled again after it has resolved, and once something has been
recorded the future waits only for a cancelled branch that is still pending. -/
structure ContractHolds (recorded : Future → Bool)
    (watched : Watched Output Exception Future Result) : Prop where
  polledOnce : watched.log.Pairwise fun earlier later =>
    later.branch = earlier.branch → earlier.outcome.isPending = true
  waits : recorded watched.future = true → watched.outcome = .pending →
    ∃ poll ∈ watched.last, poll.draining = true ∧ poll.outcome.isPending = true

structure KeepsContract (statesOf : Future → Fin n → BranchState) (recorded : Future → Bool)
    (log : List (BranchPoll Output Exception))
    (polled : Future × List (BranchPoll Output Exception) × PollResult Exception Result) :
    Prop where
  tracked : Tracked (statesOf polled.1) (log ++ polled.2.1)
  waits : recorded polled.1 = true → polled.2.2 = .pending →
    ∃ poll ∈ polled.2.1, poll.draining = true ∧ poll.outcome.isPending = true

/-- A poll that ends with a drain pass, and after it delivers what has been recorded. -/
theorem KeepsContract.of_drained {pass : DrainPass Output Exception}
    (drained : Drained (log ++ polls) pass) (states : statesOf future = pass.states)
    (delivers : recorded future = true → pass.anyStillDraining = false → outcome ≠ .pending) :
    KeepsContract statesOf recorded log (future, polls ++ pass.polls, outcome) := by
  constructor
  · rw [states, ← List.append_assoc]
    exact drained.tracked
  · intro already pending
    cases still : pass.anyStillDraining with
    | false => exact (delivers already still pending).elim
    | true =>
      rcases drained.waits still with ⟨poll, member, waiting⟩
      exact ⟨poll, List.mem_append_right _ member, waiting⟩

theorem watch_holds (statesOf : Future → Fin n → BranchState) (initially : recorded new = false)
    (keeps : ∀ answers future log, drainsToDropped answers → Tracked (statesOf future) log →
      KeepsContract statesOf recorded log (poll answers future))
    (reached : (watch new poll).Reaches (fun _ answers => drainsToDropped answers) watched) :
    ContractHolds recorded watched := by
  have invariant : Tracked (statesOf watched.future) watched.log ∧
      ContractHolds recorded watched := by
    refine reached.invariant (fun watched => Tracked (statesOf watched.future) watched.log ∧
      ContractHolds recorded watched) ?_ ?_
    · intro state answers next current drains stepped
      rcases of_guard stepped with ⟨_, rfl⟩
      have kept := keeps answers state.future state.log drains current.1
      exact ⟨kept.tracked, kept.tracked.once, kept.waits⟩
    · refine ⟨Tracked.nil, List.Pairwise.nil, ?_⟩
      intro already
      rw [show recorded (watch new poll).initial.future = false from initially] at already
      exact nomatch already
  exact invariant.2

end Watched

variable {n : Nat} {Output : Fin n → Type} {Exception : Type}

namespace SelectFuture

theorem finish_keeps (drains : drainsToDropped answers)
    (tracked : Tracked future.states (log ++ polls)) :
    KeepsContract states decided log (finish answers future polls) := by
  apply KeepsContract.of_drained (pollDraining_drained drains tracked)
  · rfl
  · intro recorded drained
    change future.decided = true at recorded
    rw [if_neg (Bool.eq_false_iff.mp drained)]
    cases exception : future.exception <;> cases result : future.result <;>
      simp [decided, exception, result] at recorded ⊢

theorem poll_keeps [NeZero n] (cancellable : Fin n → Bool) (taskCancelled : Exception)
    (drains : drainsToDropped answers) (tracked : Tracked future.states log) :
    KeepsContract states decided log (poll cancellable taskCancelled answers future) := by
  have started : Tracked future.states (log ++ []) := by
    rw [List.append_nil]
    exact tracked
  unfold poll
  split
  · exact finish_keeps drains started
  · have active := pollActive_tracked cancellable taskCancelled answers
      (roundRobin n future.pollStart) ⟨future, [], false⟩ started
    simp only
    split
    · exact finish_keeps drains active
    · rename_i undecided
      exact ⟨active, fun recorded => (undecided recorded).elim⟩

end SelectFuture

namespace JoinFuture

def failed (future : JoinFuture Output Exception) : Bool :=
  future.exception.isSome

theorem finish_keeps (drains : drainsToDropped answers)
    (tracked : Tracked future.states (log ++ polls)) :
    KeepsContract states failed log (finish answers future polls) := by
  apply KeepsContract.of_drained (pollDraining_drained drains tracked)
  · rfl
  · intro recorded drained
    change future.exception.isSome = true at recorded
    rcases Option.isSome_iff_exists.mp recorded with ⟨exception, equal⟩
    rw [if_neg (Bool.eq_false_iff.mp drained), equal]
    simp

theorem poll_keeps [NeZero n] (cancellable : Fin n → Bool) (taskCancelled : Exception)
    (drains : drainsToDropped answers) (tracked : Tracked future.states log) :
    KeepsContract states failed log (poll cancellable taskCancelled answers future) := by
  have started : Tracked future.states (log ++ []) := by
    rw [List.append_nil]
    exact tracked
  unfold poll
  split
  · exact finish_keeps drains started
  · have active := pollActive_tracked cancellable taskCancelled answers
      (roundRobin n future.pollStart) ⟨future, []⟩ started
    simp only
    split
    · exact finish_keeps drains active
    · rename_i unfinished
      refine ⟨active, ?_⟩
      intro recorded
      exact (unfinished (by rw [Bool.or_eq_true]; exact .inl recorded)).elim

end JoinFuture

/-! ## Runs of `select()` and `join()` -/

def selectMachine [NeZero n] (Output : Fin n → Type) (cancellable : Fin n → Bool)
    (taskCancelled : Exception) :
    Machine (Watched Output Exception (SelectFuture Output Exception)
      ((branch : Fin n) × Output branch)) (Answers Output Exception) :=
  watch SelectFuture.new (SelectFuture.poll cancellable taskCancelled)

def joinMachine [NeZero n] (Output : Fin n → Type) (cancellable : Fin n → Bool)
    (taskCancelled : Exception) :
    Machine (Watched Output Exception (JoinFuture Output Exception)
      ((branch : Fin n) → Output branch)) (Answers Output Exception) :=
  watch JoinFuture.new (JoinFuture.poll cancellable taskCancelled)

theorem combined_futures_keep_contract [NeZero n] (Output : Fin n → Type)
    (cancellable : Fin n → Bool) (taskCancelled : Exception) :
    (∀ watched, (selectMachine Output cancellable taskCancelled).Reaches
        (fun _ answers => drainsToDropped answers) watched →
      ContractHolds SelectFuture.decided watched) ∧
    (∀ watched, (joinMachine Output cancellable taskCancelled).Reaches
        (fun _ answers => drainsToDropped answers) watched →
      ContractHolds JoinFuture.failed watched) := by
  constructor
  · intro watched reached
    exact watch_holds SelectFuture.states rfl
      (fun _ _ _ drains tracked =>
        SelectFuture.poll_keeps cancellable taskCancelled drains tracked) reached
  · intro watched reached
    exact watch_holds JoinFuture.states rfl
      (fun _ _ _ drains tracked =>
        JoinFuture.poll_keeps cancellable taskCancelled drains tracked) reached

/-- Two handles: the first task finishes before the first poll, the second one is
still running when it is cancelled. -/
def slowLoser (drained : Bool) : Answers (fun _ : Fin 2 => Nat) Unit where
  active := fun branch =>
    JoinHandle.poll ⟨branch = 0, if branch = 0 then some 7 else none, none⟩
  draining := fun _ => JoinHandle.poll ⟨drained, none, none⟩
  budgetSpent := fun _ => false

theorem slowLoser_drains (drained : Bool) : drainsToDropped (slowLoser drained) := by
  intro branch
  cases drained with
  | false => exact .inl rfl
  | true => exact .inr rfl

/-- A `select()` that has a winner in its first poll and delivers it in the second
one, when the loser has drained. -/
theorem combined_futures_keep_contract_slow_loser :
    ∃ watched, (selectMachine (fun _ : Fin 2 => Nat) (fun _ => true) ()).Reaches
        (fun _ answers => drainsToDropped answers) watched ∧
      watched.outcome = .ready ⟨0, 7⟩ ∧ ContractHolds SelectFuture.decided watched := by
  have path : (selectMachine (fun _ : Fin 2 => Nat) (fun _ => true) ()).Reaches
      (fun _ answers => drainsToDropped answers) _ :=
    ⟨[slowLoser false, slowLoser true], .cons (slowLoser_drains false) rfl
      (.cons (slowLoser_drains true) rfl (.nil _))⟩
  exact ⟨_, path, rfl,
    (combined_futures_keep_contract (fun _ : Fin 2 => Nat) (fun _ => true) ()).1 _ path⟩

/-- Two handles whose tasks have both finished before the first poll, with a value or,
for `failing`, the first one with an exception. -/
def bothFinished (failing : Bool) : Answers (fun _ : Fin 2 => Nat) Unit where
  active := fun branch =>
    JoinHandle.poll ⟨true, some branch.val, if failing && branch = 0 then some () else none⟩
  draining := fun branch => JoinHandle.poll ⟨true, some branch.val, none⟩
  budgetSpent := fun _ => false

/-- A loser that had finished already answers its cancellation with a value, which the
drain pass takes for a branch that is still running. -/
theorem finished_loser_breaks_contract :
    (¬∀ watched, (selectMachine (fun _ : Fin 2 => Nat) (fun _ => true) ()).Reaches
        anyMove watched → ContractHolds SelectFuture.decided watched) ∧
    (¬∀ watched, (joinMachine (fun _ : Fin 2 => Nat) (fun _ => true) ()).Reaches
        anyMove watched → ContractHolds JoinFuture.failed watched) := by
  constructor
  · intro holds
    have decided := holds _ ⟨[bothFinished false], .cons trivial rfl (.nil _)⟩
    rcases decided.waits rfl rfl with ⟨poll, member, waiting⟩
    rcases List.mem_pair.mp member with rfl | rfl
    · exact nomatch waiting.1
    · exact nomatch waiting.2
  · intro holds
    have failed := holds _ ⟨[bothFinished true], .cons trivial rfl (.nil _)⟩
    rcases failed.waits rfl rfl with ⟨poll, member, waiting⟩
    rcases List.mem_pair.mp member with rfl | rfl
    · exact nomatch waiting.1
    · exact nomatch waiting.2

end CoroRuntime.Combinators
