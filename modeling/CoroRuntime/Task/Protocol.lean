import CoroRuntime.Foundation.Occupancy
import CoroRuntime.Task.SchedulingState

/-! # The scheduling protocol of one task

One task, its scheduling cell and the run queues it may be in, under any number
of activities: one `Executor::schedule()`, calls of `TaskBase::wake()` and of
`JoinHandle::cancel()`, and executor workers. Each access to the cell, each
enqueue and each dequeue is one move. A call made from inside another one (a
`wake()` from the task's own poll, the `cancel_task()` of a task spawned during
shutdown) is an activity of its own that happens to run there.
-/

namespace CoroRuntime.Task

open Foundation

inductive Phase
  | free
  /-- In `schedule()`, the executor set and the cell not yet written. -/
  | scheduleStore
  | scheduleInsert
  | enqueuing
  /-- The task sits in the `WakeBatch` open on this thread. -/
  | batched
  | waking (expected : SchedulingState)
  | cancelLocking
  | cancelling (expected : SchedulingState)
  | dequeued
  | polling
  | pollReturned (done : Bool)
  | renotifying (expected : SchedulingState)
  | removing
  | aborted
  /-- `enqueue()` was called through a null `owning_executor`. -/
  | faulted
  deriving DecidableEq, Repr

/-- About to enqueue the task, or has just dequeued it. -/
def Phase.holding : Phase → Bool
  | .scheduleInsert | .enqueuing | .batched | .dequeued => true
  | _ => false

/-- Between the exchange that starts a poll and the one that ends it. -/
def Phase.runs : Phase → Bool
  | .polling | .pollReturned _ | .renotifying _ => true
  | _ => false

inductive Ownership
  | unlinked
  | linked
  | removed
  deriving DecidableEq, Repr

structure TaskState (Thread : Type) where
  schedulingState : SchedulingState
  owningExecutor : Bool
  /-- `schedule()` has written the cell. -/
  published : Bool
  cancelled : Bool
  ownership : Ownership
  /-- How often the task occurs in the run queues. -/
  queued : Nat
  phase : Thread → Phase

inductive Move (Thread : Type)
  | schedule (thread : Thread)
  | storeNotified (thread : Thread)
  | insertOwned (thread : Thread)
  | enqueue (thread : Thread)
  | collect (thread : Thread)
  | flush (thread : Thread)
  | wake (thread : Thread)
  | wakeTurn (thread : Thread)
  | cancel (thread : Thread)
  | lockTask (thread : Thread)
  | lockExpired (thread : Thread)
  | cancelTurn (thread : Thread)
  | dequeue (thread : Thread)
  | requeue (thread : Thread)
  | startPoll (thread : Thread)
  | pollReturn (thread : Thread) (done : Bool)
  | storeDone (thread : Thread)
  | removeOwned (thread : Thread)
  | park (thread : Thread)
  | renotify (thread : Thread)
  deriving DecidableEq, Repr

namespace TaskState

variable {Thread : Type} [DecidableEq Thread]
variable (state : TaskState Thread)

def goto (thread : Thread) (phase : Phase) : TaskState Thread :=
  { state with phase := Function.update state.phase thread phase }

def afterTurn (again : SchedulingState → Phase) : NotifyOutcome → Phase
  | .retry expected => again expected
  | .enqueue => .enqueuing
  | .finished => .free
  | .abort => .aborted

def notify (thread : Thread)
    (again : SchedulingState → Phase)
    (turn : SchedulingState × NotifyOutcome) : TaskState Thread :=
  { state with schedulingState := turn.1 }.goto thread (afterTurn again turn.2)

def enqueue (thread : Thread) : TaskState Thread :=
  if state.owningExecutor then
    { state with queued := state.queued + 1 }.goto thread .free
  else
    state.goto thread .faulted

/-- The worker's exchange from `Notified` to `Running`. -/
def startPoll (thread : Thread) : TaskState Thread :=
  let result := compareExchangeStrong state.schedulingState .notified .running
  { state with schedulingState := result.cell }.goto thread
    (if result.success then .polling else .aborted)

/-- The worker's exchange from `Running` to `Idle` after a pending poll, and the
check of the state it finds instead. -/
def park (thread : Thread) : TaskState Thread :=
  let result := compareExchangeStrong state.schedulingState .running .idle
  { state with schedulingState := result.cell }.goto thread
    (if result.success then .free
      else if result.expected = SchedulingState.runningAndNotified then .renotifying result.expected
      else .aborted)

/-- The worker's exchange from `RunningAndNotified` to `Notified`. -/
def renotify (thread : Thread)
    (expected : SchedulingState) : TaskState Thread :=
  let result := compareExchangeStrong state.schedulingState expected .notified
  { state with schedulingState := result.cell }.goto thread
    (if result.success then .enqueuing else .aborted)

def step : Move Thread → Option (TaskState Thread)
  | .schedule thread =>
    if state.phase thread = .free ∧ state.owningExecutor = false then
      some ({ state with owningExecutor := true }.goto thread .scheduleStore)
    else none
  | .storeNotified thread =>
    if state.phase thread = .scheduleStore then
      some ({ state with schedulingState := .notified, published := true }.goto
        thread .scheduleInsert)
    else none
  | .insertOwned thread =>
    if state.phase thread = .scheduleInsert then
      some ({ state with ownership := .linked }.goto thread .enqueuing)
    else none
  | .enqueue thread =>
    if state.phase thread = .enqueuing then some (state.enqueue thread) else none
  | .collect thread =>
    if state.phase thread = .enqueuing ∧ state.owningExecutor = true then
      some (state.goto thread .batched)
    else none
  | .flush thread =>
    if state.phase thread = .batched then some (state.enqueue thread) else none
  | .wake thread =>
    if state.phase thread = .free then some (state.goto thread (.waking .idle)) else none
  | .wakeTurn thread =>
    match state.phase thread with
    | .waking expected =>
      some (state.notify thread .waking
        (TaskBase.wakeTurn state.schedulingState expected))
    | _ => none
  | .cancel thread =>
    if state.phase thread = .free then
      some ({ state with cancelled := true }.goto thread .cancelLocking)
    else none
  | .lockTask thread =>
    if state.phase thread = .cancelLocking then
      some (state.goto thread (.cancelling .idle))
    else none
  | .lockExpired thread =>
    if state.phase thread = .cancelLocking ∧ state.ownership = .removed then
      some (state.goto thread .free)
    else none
  | .cancelTurn thread =>
    match state.phase thread with
    | .cancelling expected =>
      some (state.notify thread .cancelling
        (JoinHandle.cancelTurn state.schedulingState expected))
    | _ => none
  | .dequeue thread =>
    if state.phase thread = .free ∧ 0 < state.queued then
      some ({ state with queued := state.queued - 1 }.goto thread .dequeued)
    else none
  | .requeue thread =>
    if state.phase thread = .dequeued then some (state.enqueue thread) else none
  | .startPoll thread =>
    if state.phase thread = .dequeued then some (state.startPoll thread) else none
  | .pollReturn thread done =>
    if state.phase thread = .polling then some (state.goto thread (.pollReturned done))
    else none
  | .storeDone thread =>
    if state.phase thread = .pollReturned true then
      some ({ state with schedulingState := .done }.goto thread .removing)
    else none
  | .removeOwned thread =>
    if state.phase thread = .removing then
      some ({ state with ownership := .removed }.goto thread .free)
    else none
  | .park thread =>
    if state.phase thread = .pollReturned false then some (state.park thread) else none
  | .renotify thread =>
    match state.phase thread with
    | .renotifying expected => some (state.renotify thread expected)
    | _ => none

end TaskState

/-- A task that has just been made, before `schedule()` is called for it. -/
def newTask (Thread : Type) : TaskState Thread where
  schedulingState := .idle
  owningExecutor := false
  published := false
  cancelled := false
  ownership := .unlinked
  queued := 0
  phase := fun _ => .free

def taskMachine (Thread : Type) [DecidableEq Thread] :
    Machine (TaskState Thread) (Move Thread) where
  initial := newTask Thread
  step := TaskState.step

/-- The task is woken or cancelled only once `schedule()` has written its cell. -/
def afterPublication (state : TaskState Thread) : Move Thread → Prop
  | .wake _ | .cancel _ => state.published = true
  | _ => True

instance (state : TaskState Thread) (move : Move Thread) :
    Decidable (afterPublication state move) := by
  cases move <;> simp only [afterPublication] <;> infer_instance

/-- The task is in a run queue, or some thread is about to put it there or has
just taken it out. -/
def TaskState.Placed (state : TaskState Thread) : Prop :=
  (state.queued = 1 ∧ Nobody Phase.holding state.phase) ∨
    (state.queued = 0 ∧ Sole Phase.holding state.phase)

end CoroRuntime.Task
