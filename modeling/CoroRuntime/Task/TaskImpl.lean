import CoroRuntime.Combinators.Calls
import CoroRuntime.Completion.TaskState

/-! # The poll of a task

`TaskImpl::poll` of `include/coro/detail/task.h` for a future of any kind. It does not catch
what the future's `poll()` throws.
-/

namespace CoroRuntime.Polling

open Foundation Future Combinators
open Completion (TaskState)

structure TaskImpl (Waker T Exception : Type) where
  /-- `m_future` is empty once the task has finished -/
  hasFuture : Bool := true
  cancelled : Bool := false
  cancelRequested : Bool := false
  state : TaskState Waker T Exception := {}
  /-- how often `on_task_complete()` has been called -/
  completions : Nat := 0

namespace TaskImpl

variable {Waker T Exception : Type} (cancellable : Bool) (isTaskCancelled : Exception → Bool)

def finish (ended : TaskState Waker T Exception) (task : TaskImpl Waker T Exception) :
    TaskImpl Waker T Exception :=
  { task with hasFuture := false, state := ended, completions := task.completions + 1 }

def pollsFuture (task : TaskImpl Waker T Exception) : Bool :=
  task.hasFuture && (!task.cancelled || cancellable)

def ended (cancelled : Bool) (state : TaskState Waker T Exception) :
    PollResult Exception T → TaskState Waker T Exception
  | .pending => state
  | .dropped => state.markDone.2
  | .error exception =>
    if cancelled || isTaskCancelled exception then state.markDone.2
    else (state.setException exception).2
  | .ready value => if cancelled then state.markDone.2 else (state.setResult value).2

/-- Whether the task has finished, or the exception that leaves the call -/
def poll (call : Call Exception T) (task : TaskImpl Waker T Exception) :
    TaskImpl Waker T Exception × Except Exception Bool :=
  if task.hasFuture = false then (task, .ok true)
  else if task.cancelled && !cancellable then (task.finish task.state.markDone.2, .ok true)
  else
    let requested := { task with cancelRequested := task.cancelRequested || task.cancelled }
    match call with
    | .error exception => (requested, .error exception)
    | .ok result =>
      if result.isPending then (requested, .ok false)
      else (requested.finish (ended isTaskCancelled task.cancelled task.state result), .ok true)

end TaskImpl

structure Spawned (Waker T Exception : Type) where
  task : TaskImpl Waker T Exception := {}
  /-- the exception that has left `TaskImpl::poll` -/
  thrown : Option Exception := none
  /-- how the future failed, and whether the task had been cancelled by then -/
  failure : Option (Exception × Bool) := none

inductive SpawnedMove (Waker T Exception : Type)
  | cancel
  | poll (call : Call Exception T)
  | pollHandle (waker : Waker)

section Machine

variable {Waker T Exception : Type} (cancellable : Bool) (isTaskCancelled : Exception → Bool)

def failureOf (call : Call Exception T) : Option Exception :=
  match call.result with
  | .error exception => some exception
  | _ => none

namespace Spawned

def poll (call : Call Exception T) (spawned : Spawned Waker T Exception) :
    Spawned Waker T Exception where
  task := (spawned.task.poll cancellable isTaskCancelled call).1
  thrown :=
    match (spawned.task.poll cancellable isTaskCancelled call).2 with
    | .ok _ => none
    | .error exception => some exception
  failure :=
    if spawned.task.pollsFuture cancellable then
      (failureOf call).map (·, spawned.task.cancelled)
    else spawned.failure

/-- An exception that leaves `TaskImpl::poll` ends the worker. -/
def step (spawned : Spawned Waker T Exception) :
    SpawnedMove Waker T Exception → Option (Spawned Waker T Exception)
  | .cancel => some { spawned with task := { spawned.task with cancelled := true } }
  | .poll call =>
    if spawned.thrown.isSome then none else some (spawned.poll cancellable isTaskCancelled call)
  | .pollHandle waker =>
    some { spawned with
      task := { spawned.task with state := (spawned.task.state.poll waker).2 } }

end Spawned

def taskMachine (Waker T : Type) : Machine (Spawned Waker T Exception)
    (SpawnedMove Waker T Exception) where
  initial := {}
  step := Spawned.step cancellable isTaskCancelled

def callReturns (_ : Spawned Waker T Exception) : SpawnedMove Waker T Exception → Prop
  | .poll call => ∀ exception, call ≠ .error exception
  | _ => True

/-- No exception leaves the task. It completes at most once, and a future that fails completes
it. The handle then reports the failure, unless the task was cancelled. -/
structure EndsWithFailure (spawned : Spawned Waker T Exception) : Prop where
  contained : spawned.thrown = none
  once : spawned.task.completions ≤ 1
  completed : spawned.task.completions = 1 ↔ spawned.task.state.terminated = true
  ended : spawned.failure ≠ none → spawned.task.completions = 1
  reported : ∀ exception, spawned.failure = some (exception, false) →
    isTaskCancelled exception = false → spawned.task.state.outcome = .error exception

/-! ## A future that returns its failures -/

section Invariant

variable {cancellable isTaskCancelled} {spawned next : Spawned Waker T Exception}

variable (isTaskCancelled) in
structure Kept (spawned : Spawned Waker T Exception) : Prop where
  ends : EndsWithFailure isTaskCancelled spawned
  unfinished : spawned.task.hasFuture = true ↔ spawned.task.completions = 0

theorem terminated_ended (resolved : result.isPending = false) (cancelled : Bool)
    (state : TaskState Waker T Exception) :
    (TaskImpl.ended isTaskCancelled cancelled state result).terminated = true := by
  cases result with
  | pending => cases resolved
  | dropped => rfl
  | ready value => cases cancelled <;> rfl
  | error exception =>
    simp only [TaskImpl.ended]
    split <;> rfl

theorem outcome_ended (plain : isTaskCancelled exception = false)
    (state : TaskState Waker T Exception) :
    (TaskImpl.ended isTaskCancelled false state (.error exception)).outcome = .error exception := by
  simp [TaskImpl.ended, plain, TaskState.outcome, TaskState.setException, TaskState.finish]

section

variable (kept : Kept isTaskCancelled spawned)

include kept

theorem Kept.finish (unfinished : spawned.task.hasFuture = true)
    (terminated : ended.terminated = true) {failure : Option (Exception × Bool)}
    (reported : ∀ exception, failure = some (exception, false) →
      isTaskCancelled exception = false → ended.outcome = .error exception)
    {task : TaskImpl Waker T Exception} (same : task.completions = spawned.task.completions) :
    Kept isTaskCancelled ⟨task.finish ended, none, failure⟩ := by
  have first : task.completions = 0 := same.trans (kept.unfinished.mp unfinished)
  refine ⟨⟨rfl, ?_, ?_, ?_, reported⟩, ?_⟩
  · simp [TaskImpl.finish, first]
  · simp [TaskImpl.finish, first, terminated]
  · simp [TaskImpl.finish, first]
  · simp [TaskImpl.finish]

theorem Kept.unfailed (unfinished : spawned.task.hasFuture = true) : spawned.failure = none := by
  by_contra failed
  have completed := kept.ends.ended failed
  rw [kept.unfinished.mp unfinished] at completed
  cases completed

theorem Kept.poll_returned (unfinished : spawned.task.hasFuture = true)
    (asked : (spawned.task.cancelled && !cancellable) = false)
    (polled : spawned.task.pollsFuture cancellable = true) (result : PollResult Exception T) :
    Kept isTaskCancelled (spawned.poll cancellable isTaskCancelled (.ok result)) := by
  cases pending : result.isPending with
  | true =>
    have unfailed : failureOf (.ok result) = none := by
      cases result <;> simp_all [PollResult.isPending, failureOf, Call.result]
    have running := kept.unfinished.mp unfinished
    simp only [Spawned.poll, TaskImpl.poll, unfinished, asked, polled, pending, unfailed]
    refine ⟨⟨rfl, ?_, ?_, by simp, by simp⟩, ?_⟩
    · exact running.trans_le (Nat.zero_le 1)
    · exact kept.ends.completed
    · exact iff_of_true rfl running
  | false =>
    simp only [Spawned.poll, TaskImpl.poll, unfinished, asked, polled, pending]
    refine kept.finish unfinished (terminated_ended pending _ _) ?_ rfl
    intro exception failed plain
    simp only [if_true, Option.map_eq_some_iff, Prod.mk.injEq] at failed
    rcases failed with ⟨failure, is, rfl, uncancelled⟩
    rw [uncancelled]
    cases result with
    | error exception =>
      cases is
      exact outcome_ended plain _
    | pending | ready | dropped => cases is

theorem Kept.poll (returns : ∀ exception, call ≠ .error exception) :
    Kept isTaskCancelled (spawned.poll cancellable isTaskCancelled call) := by
  cases finished : spawned.task.hasFuture with
  | false =>
    simp only [Spawned.poll, TaskImpl.poll, TaskImpl.pollsFuture, finished]
    have same : spawned = ⟨spawned.task, none, spawned.failure⟩ := by
      rw [← kept.ends.contained]
    exact same ▸ kept
  | true =>
    cases skipped : spawned.task.cancelled && !cancellable with
    | true =>
      have unpolled : spawned.task.pollsFuture cancellable = false := by
        revert skipped
        simp only [TaskImpl.pollsFuture]
        cases spawned.task.cancelled <;> cases cancellable <;> simp
      simp only [Spawned.poll, TaskImpl.poll, finished, skipped, unpolled]
      refine kept.finish finished rfl (fun exception failed => ?_) rfl
      rw [if_neg (by simp), kept.unfailed finished] at failed
      cases failed
    | false =>
      have polled : spawned.task.pollsFuture cancellable = true := by
        revert skipped
        simp only [TaskImpl.pollsFuture, finished]
        cases spawned.task.cancelled <;> cases cancellable <;> simp
      cases call with
      | error exception => exact absurd rfl (returns exception)
      | ok result => exact kept.poll_returned finished skipped polled result

theorem Kept.step (returns : callReturns spawned move)
    (step : spawned.step cancellable isTaskCancelled move = some next) :
    Kept isTaskCancelled next := by
  cases move with
  | cancel =>
    cases step
    exact ⟨{ kept.ends with }, kept.unfinished⟩
  | poll call =>
    rcases of_unless step with ⟨_, rfl⟩
    exact kept.poll returns
  | pollHandle waker =>
    cases step
    have same : (spawned.task.state.poll waker).2.terminated = spawned.task.state.terminated ∧
        (spawned.task.state.poll waker).2.outcome = spawned.task.state.outcome := by
      unfold TaskState.poll
      split <;> exact ⟨rfl, rfl⟩
    refine ⟨⟨kept.ends.contained, kept.ends.once, ?_, kept.ends.ended, ?_⟩, kept.unfinished⟩
    · rw [same.1]
      exact kept.ends.completed
    · rw [same.2]
      exact kept.ends.reported

end

theorem endsWithFailure_of_reaches
    (reached : (taskMachine cancellable isTaskCancelled Waker T).Reaches callReturns spawned) :
    EndsWithFailure isTaskCancelled spawned := by
  have kept : Kept isTaskCancelled spawned := by
    refine reached.invariant (Kept isTaskCancelled)
      (fun _ _ _ kept returns step => kept.step returns step) ?_
    exact ⟨by constructor <;> simp [taskMachine], by simp [taskMachine]⟩
  exact kept.ends

end Invariant

end Machine

end CoroRuntime.Polling
