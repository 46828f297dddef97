import CoroRuntime.Combinators.Calls
import CoroRuntime.Combinators.FutureContract

/-! # Branches that fail

What a combined future does with the failure of a branch: it records it, cancels and drains
the other branches, and then reports it.
-/

namespace CoroRuntime.Combinators

open Foundation Future

variable {n : Nat} {Output : Fin n → Type} {Exception : Type}

/-! ## What is recorded -/

/-- Every failure of a branch that was not cancelled is on record, and once something is
decided no branch is active. -/
structure Recorded (exception : Option Exception) (decided : Bool)
    (states : Fin n → BranchState) (log : List (BranchPoll Output Exception)) : Prop where
  failed : ∀ poll ∈ log, poll.draining = false → ∀ failure, poll.outcome = .error failure →
    exception = some failure
  decides : exception.isSome = true → decided = true
  cancelled : decided = true → ∀ branch, states branch ≠ .active

namespace Recorded

variable {exception : Option Exception} {decided : Bool} {states : Fin n → BranchState}
  {log : List (BranchPoll Output Exception)}

variable (recorded : Recorded exception decided states log)

include recorded

theorem undecided (active : states branch = .active) : exception = none ∧ decided = false := by
  cases known : decided with
  | true => exact absurd active (recorded.cancelled known branch)
  | false =>
    refine ⟨?_, rfl⟩
    cases exception with
    | none => rfl
    | some failure =>
      have already := recorded.decides rfl
      simp [known] at already

theorem unfailed (active : states branch = .active) : ∀ poll ∈ log, poll.draining = false →
      ∀ failure, poll.outcome ≠ .error failure := by
  intro poll member plain failure is
  have known := recorded.failed poll member plain failure is
  rw [(recorded.undecided active).1] at known
  cases known

theorem append (drained : ∀ poll ∈ polls, poll.draining = true)
    (kept : ∀ branch, states branch ≠ .active → after branch ≠ .active) :
    Recorded exception decided after (log ++ polls) where
  failed := by
    intro poll member plain
    rcases List.mem_append.mp member with old | new
    · exact recorded.failed poll old plain
    · simp [drained poll new] at plain
  decides := recorded.decides
  cancelled known branch := kept branch (recorded.cancelled known branch)

theorem waits (pending : entry.outcome.isPending = true) :
    Recorded exception decided states (log ++ [entry]) where
  failed := by
    intro poll member plain failure is
    rcases List.mem_append.mp member with old | new
    · exact recorded.failed poll old plain failure is
    · rw [List.mem_singleton] at new
      subst new
      simp [is, PollResult.isPending] at pending
  decides := recorded.decides
  cancelled := recorded.cancelled

theorem resolves (active : states entry.branch = .active)
    (failed : ∀ failure, entry.outcome = .error failure → now = some failure)
    (decides : now.isSome = true → settled = true)
    (cancelled : settled = true → ∀ branch, after branch ≠ .active) :
    Recorded now settled after (log ++ [entry]) where
  failed := by
    intro poll member plain failure is
    rcases List.mem_append.mp member with old | new
    · exact absurd is (recorded.unfailed active poll old plain failure)
    · rw [List.mem_singleton] at new
      subst new
      exact failed failure is
  decides := decides
  cancelled := cancelled

end Recorded

/-! ## The passes over the branches -/

theorem cancelOne_inactive (branch : Fin n) (inactive : states other ≠ .active) :
    cancelOne cancellable states branch other ≠ .active := by
  unfold cancelOne
  split
  · by_cases same : other = branch
    · subst same
      rw [Function.update_self]
      split <;> simp
    · rwa [Function.update_of_ne same]
  · exact inactive

theorem cancelOne_self (branch : Fin n) : cancelOne cancellable states branch branch ≠ .active := by
  unfold cancelOne
  split
  · rw [Function.update_self]
    split <;> simp
  · assumption

/-- A pass of cancellations leaves no branch active that has had its turn. -/
theorem foldl_inactive
    (keeps : ∀ states branch, states other ≠ .active → turn states branch other ≠ .active)
    (stops : ∀ states, turn states other other ≠ .active) (order : List (Fin n))
    {states : Fin n → BranchState} (turns : states other ≠ .active ∨ other ∈ order) :
    order.foldl turn states other ≠ .active := by
  induction order generalizing states with
  | nil =>
    rcases turns with inactive | member
    · exact inactive
    · cases member
  | cons branch rest induction =>
    refine induction ?_
    rcases turns with inactive | member
    · exact .inl (keeps states branch inactive)
    · rcases List.mem_cons.mp member with rfl | later
      · exact .inl (stops states)
      · exact .inr later

theorem cancelActive_inactive (cancellable : Fin n → Bool) (states : Fin n → BranchState)
    (branch : Fin n) : cancelActive cancellable states branch ≠ .active :=
  foldl_inactive (fun _ other => cancelOne_inactive other) (fun _ => cancelOne_self branch) _
    (.inr (List.mem_finRange branch))

theorem cancelOthers_inactive (cancellable : Fin n → Bool) (done : states winner = .done)
    (branch : Fin n) : cancelOthers cancellable winner states branch ≠ .active := by
  by_cases won : branch = winner
  · subst won
    rw [cancelOthers_done done]
    simp
  · refine foldl_inactive (fun current other inactive => ?_) (fun current => ?_) _
      (.inr (List.mem_finRange branch))
    · split
      · exact cancelOne_inactive other inactive
      · exact inactive
    · rw [if_pos won]
      exact cancelOne_self branch

structure Drains (before after : DrainPass Output Exception) : Prop where
  inactive : ∀ branch, before.states branch ≠ .active → after.states branch ≠ .active
  undrained : ∀ branch, before.states branch ≠ .draining → after.states branch ≠ .draining
  polls : (∀ poll ∈ before.polls, poll.draining = true) → ∀ poll ∈ after.polls,
    poll.draining = true
  still : after.anyStillDraining = false → before.anyStillDraining = false

theorem pollDrainingOne_drains (answers : Answers Output Exception)
    (pass : DrainPass Output Exception) (branch : Fin n) :
    Drains pass (pollDrainingOne answers pass branch) := by
  unfold pollDrainingOne
  have logged : ∀ result, (∀ poll ∈ pass.polls, poll.draining = true) →
      ∀ poll ∈ pass.polls ++ [⟨branch, true, result⟩], poll.draining = true := by
    intro result drained poll member
    rcases List.mem_append.mp member with old | new
    · exact drained poll old
    · rw [List.mem_singleton] at new
      rw [new]
  split
  · exact ⟨fun _ inactive => inactive, fun _ undrained => undrained, fun drained => drained,
      fun still => still⟩
  · simp only
    split
    · refine ⟨fun other inactive => ?_, fun other undrained => ?_, logged _, fun still => still⟩
      · by_cases same : other = branch
        · simp [same]
        · simpa [same] using inactive
      · by_cases same : other = branch
        · simp [same]
        · simpa [same] using undrained
    · exact ⟨fun _ inactive => inactive, fun _ undrained => undrained, logged _, by simp⟩

theorem pollDrainingOne_self {pass : DrainPass Output Exception}
    (still : (pollDrainingOne answers pass branch).anyStillDraining = false) :
    (pollDrainingOne answers pass branch).states branch ≠ .draining := by
  unfold pollDrainingOne at still ⊢
  split
  · assumption
  · rename_i draining
    simp only [draining, if_false] at still ⊢
    split
    · simp
    · rename_i undropped
      simp [undropped] at still

theorem foldl_drains (answers : Answers Output Exception) (order : List (Fin n))
    (pass : DrainPass Output Exception) :
    Drains pass (order.foldl (pollDrainingOne answers) pass) ∧
      ((order.foldl (pollDrainingOne answers) pass).anyStillDraining = false →
        ∀ branch ∈ order,
          (order.foldl (pollDrainingOne answers) pass).states branch ≠ .draining) := by
  induction order generalizing pass with
  | nil =>
    exact ⟨⟨fun _ inactive => inactive, fun _ undrained => undrained, fun drained => drained,
      fun still => still⟩, by simp⟩
  | cons branch rest induction =>
    have first := pollDrainingOne_drains answers pass branch
    rcases induction (pollDrainingOne answers pass branch) with ⟨later, settled⟩
    refine ⟨⟨fun other inactive => later.inactive other (first.inactive other inactive),
      fun other undrained => later.undrained other (first.undrained other undrained),
      fun drained => later.polls (first.polls drained),
      fun still => first.still (later.still still)⟩, ?_⟩
    intro still other member
    rcases List.mem_cons.mp member with rfl | behind
    · exact later.undrained other (pollDrainingOne_self (later.still still))
    · exact settled still other behind

/-! ## One poll of a combined future -/

structure Reports (statesOf : Future → Fin n → BranchState)
    (exceptionOf : Future → Option Exception)
    (decidedOf : Future → Bool) (log : List (BranchPoll Output Exception))
    (polled : Future × List (BranchPoll Output Exception) × PollResult Exception Result) :
    Prop where
  recorded : Recorded (exceptionOf polled.1) (decidedOf polled.1) (statesOf polled.1)
    (log ++ polled.2.1)
  reports : ∀ failure, exceptionOf polled.1 = some failure →
    polled.2.2 = .pending ∨ polled.2.2 = .error failure
  drained : polled.2.2.isPending = false → exceptionOf polled.1 ≠ none →
    ∀ branch, statesOf polled.1 branch = .done

theorem Reports.of_drained {answers : Answers Output Exception}
    {outcome : PollResult Exception Result}
    (recorded : Recorded (exceptionOf future) (decidedOf future) states (log ++ polls))
    (drains : statesOf future = (pollDraining answers states).states)
    (waits : (pollDraining answers states).anyStillDraining = true → outcome = .pending)
    (delivers : (pollDraining answers states).anyStillDraining = false →
      ∀ failure, exceptionOf future = some failure → outcome = .error failure) :
    Reports statesOf exceptionOf decidedOf log
      (future, polls ++ (pollDraining answers states).polls, outcome) := by
  rcases foldl_drains answers (List.finRange n) ⟨states, false, []⟩ with ⟨pass, settled⟩
  change Drains _ (pollDraining answers states) at pass
  constructor
  · change Recorded (exceptionOf future) (decidedOf future) (statesOf future) _
    rw [drains, ← List.append_assoc]
    exact recorded.append (pass.polls (by simp)) pass.inactive
  · intro failure is
    cases still : (pollDraining answers states).anyStillDraining with
    | true => exact .inl (waits still)
    | false => exact .inr (delivers still failure is)
  · intro finished failed branch
    change statesOf future branch = .done
    have decided := recorded.decides (Option.isSome_iff_ne_none.mpr failed)
    rw [drains]
    have idle : (pollDraining answers states).anyStillDraining = false := by
      cases still : (pollDraining answers states).anyStillDraining with
      | true => simp [waits still, PollResult.isPending] at finished
      | false => rfl
    have undrained := settled idle branch (List.mem_finRange branch)
    have inactive := pass.inactive branch (recorded.cancelled decided branch)
    change (pollDraining answers states).states branch ≠ .draining at undrained
    cases is : (pollDraining answers states).states branch with
    | active => exact absurd is inactive
    | draining => exact absurd is undrained
    | done => rfl

namespace SelectFuture

variable (cancellable : Fin n → Bool) (taskCancelled : Exception)

theorem pollActiveOne_recorded (answers : Answers Output Exception)
    {pass : ActivePass Output Exception}
    (recorded : Recorded pass.future.exception pass.future.decided pass.future.states
      (log ++ pass.polls)) (branch : Fin n) :
    let next := pollActiveOne cancellable taskCancelled answers pass branch
    Recorded next.future.exception next.future.decided next.future.states (log ++ next.polls) := by
  intro next
  unfold next pollActiveOne
  split
  · exact recorded
  · rename_i active
    rw [not_not] at active
    split
    · exact recorded
    · simp only
      split
      · rename_i pending
        rw [← List.append_assoc]
        exact recorded.waits pending
      · rename_i resolved
        rw [← List.append_assoc]
        have done : Function.update pass.future.states branch .done branch = .done :=
          Function.update_self ..
        refine recorded.resolves active ?_ ?_ fun _ => cancelOthers_inactive cancellable done
        · intro failure is
          simp only at is
          simp only [is, resolve]
        · simp +contextual [decided]

theorem pollActive_recorded (answers : Answers Output Exception) (order : List (Fin n))
    (pass : ActivePass Output Exception)
    (recorded : Recorded pass.future.exception pass.future.decided pass.future.states
      (log ++ pass.polls)) :
    let last := pollActive cancellable taskCancelled answers order pass
    Recorded last.future.exception last.future.decided last.future.states (log ++ last.polls) := by
  induction order generalizing pass with
  | nil => exact recorded
  | cons branch rest induction =>
    have next := pollActiveOne_recorded cancellable taskCancelled answers recorded branch
    simp only [pollActive]
    split
    · exact next
    · exact induction _ next

theorem finish_reports
    (recorded : Recorded future.exception future.decided future.states (log ++ polls)) :
    Reports states exception decided log (finish answers future polls) := by
  refine Reports.of_drained recorded rfl ?_ ?_
  · intro still
    simp [still]
  · intro idle failure is
    change future.exception = some failure at is
    simp [idle, is]

theorem poll_reports [NeZero n] (answers : Answers Output Exception)
    (recorded : Recorded future.exception future.decided future.states log) :
    Reports states exception decided log (poll cancellable taskCancelled answers future) := by
  have started : Recorded future.exception future.decided future.states (log ++ []) := by
    rw [List.append_nil]
    exact recorded
  unfold poll
  split
  · exact finish_reports started
  · have active := pollActive_recorded cancellable taskCancelled answers
      (roundRobin n future.pollStart) ⟨future, [], false⟩ started
    simp only
    split
    · exact finish_reports active
    · refine ⟨active, fun _ _ => .inl rfl, fun finished => ?_⟩
      cases finished

end SelectFuture

namespace JoinFuture

variable (cancellable : Fin n → Bool) (taskCancelled : Exception)

theorem pollActiveOne_recorded (answers : Answers Output Exception)
    {pass : ActivePass Output Exception}
    (recorded : Recorded pass.future.exception pass.future.failed pass.future.states
      (log ++ pass.polls)) (branch : Fin n) :
    let next := pollActiveOne cancellable taskCancelled answers pass branch
    Recorded next.future.exception next.future.failed next.future.states (log ++ next.polls) := by
  intro next
  unfold next pollActiveOne
  split
  · exact recorded
  · rename_i active
    rw [not_not] at active
    split
    · exact recorded
    · simp only
      split
      · rename_i pending
        rw [← List.append_assoc]
        exact recorded.waits pending
      · rw [← List.append_assoc]
        have fresh := (recorded.undecided active).1
        refine recorded.resolves active ?_ (fun is => is) ?_
        · intro failure is
          simp only at is
          simp only [is, resolve, fail]
        · intro failed
          cases result : answers.active branch with
          | pending => simp_all [resolve, JoinFuture.failed]
          | ready value => simp [result, resolve, JoinFuture.failed, fresh] at failed
          | error exception | dropped => exact cancelActive_inactive cancellable _

theorem pollActive_recorded (answers : Answers Output Exception) (order : List (Fin n))
    (pass : ActivePass Output Exception)
    (recorded : Recorded pass.future.exception pass.future.failed pass.future.states
      (log ++ pass.polls)) :
    let last := order.foldl (pollActiveOne cancellable taskCancelled answers) pass
    Recorded last.future.exception last.future.failed last.future.states (log ++ last.polls) := by
  induction order generalizing pass with
  | nil => exact recorded
  | cons branch rest induction =>
    exact induction _ (pollActiveOne_recorded cancellable taskCancelled answers recorded branch)

theorem finish_reports
    (recorded : Recorded future.exception future.failed future.states (log ++ polls)) :
    Reports states exception failed log (finish answers future polls) := by
  refine Reports.of_drained recorded rfl ?_ ?_
  · intro still
    simp [still]
  · intro idle failure is
    change future.exception = some failure at is
    simp [idle, is]

theorem poll_reports [NeZero n] (answers : Answers Output Exception)
    (recorded : Recorded future.exception future.failed future.states log) :
    Reports states exception failed log (poll cancellable taskCancelled answers future) := by
  have started : Recorded future.exception future.failed future.states (log ++ []) := by
    rw [List.append_nil]
    exact recorded
  unfold poll
  split
  · exact finish_reports started
  · have active := pollActive_recorded cancellable taskCancelled answers
      (roundRobin n future.pollStart) ⟨future, []⟩ started
    simp only
    split
    · exact finish_reports active
    · refine ⟨active, fun _ _ => .inl rfl, fun finished => ?_⟩
      cases finished

end JoinFuture

/-! ## Runs -/

section Called

variable {Future Result : Type}

structure Called (Output : Fin n → Type) (Exception Future Result : Type) where
  future : Future
  /-- the polls of its branches, all of them and those of the last call -/
  log : List (BranchPoll Output Exception)
  last : List (BranchPoll Output Exception)
  outcome : Call Exception Result

def Call.isPending {Exception T : Type} : Call Exception T → Bool
  | .ok .pending => true
  | _ => false

/-- Call `poll()` until it does something other than return Pending. -/
def callAgain (new : Future)
    (call : Calls Output Exception → Future →
      Future × List (BranchPoll Output Exception) × Call Exception Result) :
    Machine (Called Output Exception Future Result) (Calls Output Exception) where
  initial := ⟨new, [], [], .ok .pending⟩
  step called calls :=
    if called.outcome.isPending then
      let (future, polls, outcome) := call calls called.future
      some ⟨future, called.log ++ polls, polls, outcome⟩
    else none

/-- No exception leaves the combined future. It records the failure of a branch and cancels
the other branches, waits for those only that are still draining, and reports the failure once
all of them are done. -/
structure HandlesFailures (statesOf : Future → Fin n → BranchState)
    (exceptionOf : Future → Option Exception) (called : Called Output Exception Future Result) :
    Prop where
  contained : ∀ exception, called.outcome ≠ .error exception
  recorded : ∀ poll ∈ called.log, poll.draining = false → ∀ failure,
    poll.outcome = .error failure → exceptionOf called.future = some failure
  cancelled : exceptionOf called.future ≠ none →
    ∀ branch, statesOf called.future branch ≠ .active
  reported : ∀ failure, exceptionOf called.future = some failure →
    called.outcome = .ok .pending ∨ called.outcome = .ok (.error failure)
  waits : exceptionOf called.future ≠ none → called.outcome = .ok .pending →
    ∃ poll ∈ called.last, poll.draining = true ∧ poll.outcome.isPending = true
  drained : ∀ failure, exceptionOf called.future = some failure →
    called.outcome = .ok (.error failure) → ∀ branch, statesOf called.future branch = .done

/-- Every call returns, and the branches that were cancelled drain to Dropped. -/
structure Behaves (calls : Calls Output Exception) : Prop where
  returns : calls.Return
  drains : drainsToDropped calls.results

theorem callAgain_handles {poll : Answers Output Exception → Future →
      Future × List (BranchPoll Output Exception) × PollResult Exception Result}
    (statesOf : Future → Fin n → BranchState)
    (initially : exceptionOf new = none ∧ decidedOf new = false)
    (same : ∀ calls future, calls.Return → call calls future =
      ((poll calls.results future).1, (poll calls.results future).2.1,
        .ok (poll calls.results future).2.2))
    (keeps : ∀ answers future log, drainsToDropped answers → Tracked (statesOf future) log →
      KeepsContract statesOf decidedOf log (poll answers future)) (reports : ∀ answers future log,
      Recorded (exceptionOf future) (decidedOf future) (statesOf future) log →
      Reports statesOf exceptionOf decidedOf log (poll answers future))
    (reached : (callAgain new call).Reaches (fun _ calls => Behaves calls) called) :
    HandlesFailures statesOf exceptionOf called := by
  have invariant : Tracked (statesOf called.future) called.log ∧
      Recorded (exceptionOf called.future) (decidedOf called.future) (statesOf called.future)
        called.log ∧ HandlesFailures statesOf exceptionOf called := by
    refine reached.invariant (fun called => Tracked (statesOf called.future) called.log ∧
      Recorded (exceptionOf called.future) (decidedOf called.future) (statesOf called.future)
        called.log ∧ HandlesFailures statesOf exceptionOf called) ?_ ?_
    · rintro state calls next ⟨tracked, recorded, _⟩ behaves stepped
      simp only [callAgain, Option.ite_none_right_eq_some, Option.some.injEq,
        same calls state.future behaves.returns] at stepped
      rcases stepped with ⟨_, rfl⟩
      have kept := keeps calls.results state.future state.log behaves.drains tracked
      have report := reports calls.results state.future state.log recorded
      refine ⟨kept.tracked, report.recorded, ?_⟩
      constructor
      case contained => simp
      case recorded => exact report.recorded.failed
      case cancelled =>
        intro failed
        exact report.recorded.cancelled
          (report.recorded.decides (Option.isSome_iff_ne_none.mpr failed))
      case reported =>
        intro failure is
        rcases report.reports failure is with pending | error
        · exact .inl (congrArg _ pending)
        · exact .inr (congrArg _ error)
      case waits =>
        intro failed pending
        exact kept.waits (report.recorded.decides (Option.isSome_iff_ne_none.mpr failed))
          (Except.ok.inj pending)
      case drained =>
        intro failure is error
        refine report.drained ?_ (by simp [is])
        rw [Except.ok.inj error]
        rfl
    · refine ⟨Tracked.nil, ⟨by simp [callAgain], ?_, ?_⟩, ?_⟩
      · simp [callAgain, initially.1]
      · simp [callAgain, initially.2]
      · constructor <;> simp [callAgain, initially.1]
  exact invariant.2.2

end Called

end CoroRuntime.Combinators
