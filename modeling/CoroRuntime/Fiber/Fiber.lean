import CoroRuntime.Completion.TaskState

/-! # Fibers

`FiberFuture` of `include/coro/task/fiber.h` and the `TaskImpl` that `spawn_fiber()` puts it
in. A poll of the task has two moves: the one up to the switch to the fiber's stack, and the
one that follows the switch back.
-/

namespace CoroRuntime.Fiber

open Completion

universe u v w

/-- What the entry callable does on the fiber's stack before the next switch back. -/
inductive Run (T : Type v) (Error : Type w)
  | yields
  | returns (value : T)
  | throws (error : Error)
  deriving DecidableEq, Repr

structure FiberFuture (T : Type v) (Error : Type w) where
  started : Bool := false
  /-- `m_result` or `m_exception`, once `m_finished` is set -/
  finished : Option (Except Error T) := none

namespace FiberFuture

variable {T : Type v} {Error : Type w}

def start (future : FiberFuture T Error) : FiberFuture T Error :=
  { future with started := true }

def trampoline (future : FiberFuture T Error) : Run T Error → FiberFuture T Error
  | .yields => future
  | .returns value => { future with finished := some (.ok value) }
  | .throws error => { future with finished := some (.error error) }

def answer (future : FiberFuture T Error) : PollResult T Error :=
  match future.finished with
  | none => .pending
  | some (.error error) => .error error
  | some (.ok value) => .ready value

end FiberFuture

inductive Entry
  | uncalled
  | underway
  | returned
  deriving DecidableEq, Repr

structure Task (Waker : Type u) (T : Type v) (Error : Type w) where
  /-- empty once the task has finished -/
  future : Option (FiberFuture T Error) := some {}
  cancelled : Bool := false
  state : TaskState Waker T Error := {}
  /-- a worker is in `poll()`, on the fiber's stack -/
  polling : Bool := false
  entry : Entry := .uncalled

namespace Task

variable {Waker : Type u} {T : Type v} {Error : Type w}

def finish (entry : Entry) (ended : TaskState Waker T Error) (task : Task Waker T Error) :
    Task Waker T Error :=
  { task with future := none, state := ended, polling := false, entry }

/-- `TaskImpl::poll` up to the switch. A `FiberFuture` has no `cancel()`, so a cancelled task
ends here. -/
def poll (task : Task Waker T Error) : Task Waker T Error :=
  match task.future with
  | none => task
  | some future =>
    if task.cancelled then task.finish task.entry task.state.markDone.2
    else { task with future := some future.start, polling := true, entry := .underway }

/-- The rest of `TaskImpl::poll`, which goes by the flag that it read before the switch -/
def resume (isTaskCancelled : Error → Bool) (run : Run T Error) (task : Task Waker T Error) :
    Task Waker T Error :=
  match task.future with
  | none => task
  | some future =>
    match (future.trampoline run).answer with
    | .pending => { task with future := some (future.trampoline run), polling := false }
    | .ready value => task.finish .returned (task.state.setResult value).2
    | .error error =>
      task.finish .returned (if isTaskCancelled error then task.state.markDone.2
        else (task.state.setException error).2)
    | .dropped => task.finish .returned task.state.markDone.2

/-- The `FiberFuture` of a task whose entry callable has been called and has not returned is
there. -/
def Kept (task : Task Waker T Error) : Prop :=
  task.entry = .underway → task.future ≠ none

/-! ## A task that nobody cancels -/

theorem kept_finish (task : Task Waker T Error) (ended : TaskState Waker T Error) :
    (task.finish .returned ended).Kept := by
  intro underway
  cases underway

theorem kept_poll {task : Task Waker T Error} (uncancelled : task.cancelled = false)
    (kept : task.Kept) : task.poll.Kept := by
  unfold poll
  split
  · exact kept
  · simp [uncancelled, Kept]

theorem kept_resume {task : Task Waker T Error} (kept : task.Kept) :
    (task.resume isTaskCancelled run).Kept := by
  unfold resume
  split
  · exact kept
  · split
    · simp [Kept]
    · exact task.kept_finish _
    · exact task.kept_finish _
    · exact task.kept_finish _

theorem cancelled_poll (task : Task Waker T Error) : task.poll.cancelled = task.cancelled := by
  unfold poll
  split
  · rfl
  · split <;> rfl

theorem cancelled_resume (task : Task Waker T Error) (isTaskCancelled : Error → Bool)
    (run : Run T Error) : (task.resume isTaskCancelled run).cancelled = task.cancelled := by
  unfold resume
  split
  · rfl
  · split <;> rfl

end Task

end CoroRuntime.Fiber
