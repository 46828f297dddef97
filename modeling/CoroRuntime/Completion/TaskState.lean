import CoroRuntime.Foundation.Execution
import CoroRuntime.Foundation.Obligations

/-! # Waiting for a task

`TaskState` of `include/coro/detail/task_state.h` and those who wait for a task: a
`JoinHandle`, the `CoroutineScope` that a dropped handle leaves the task to, and a thread in
`wait_until_done()`. They all use the one waker slot of the task. Each critical section of a
task's mutex is one move, and the wake that follows a terminal method is another.
-/

namespace CoroRuntime.Completion

open Foundation

structure TaskState (Waker : Type u) (T : Type v) (Error : Type w) where
  terminated : Bool := false
  /-- wakes the sole waiter on completion -/
  waker : Option Waker := none
  result : Option T := none
  exception : Option Error := none

inductive Terminal (T : Type v) (Error : Type w)
  | markDone
  | setResult (value : T)
  | setException (error : Error)
  deriving DecidableEq, Repr

inductive PollResult (T : Type v) (Error : Type w)
  | pending
  | ready (value : T)
  | error (error : Error)
  | dropped
  deriving DecidableEq, Repr

def PollResult.isPending {T : Type v} {Error : Type w} : PollResult T Error → Bool
  | .pending => true
  | _ => false

namespace TaskState

variable {Waker : Type u} {T : Type v} {Error : Type w}

/-- The critical section that the terminal methods share: the waker is taken out. -/
def finish (state : TaskState Waker T Error) : Option Waker × TaskState Waker T Error :=
  (state.waker, { state with terminated := true, waker := none })

def markDone (state : TaskState Waker T Error) : Option Waker × TaskState Waker T Error :=
  state.finish

def setResult (value : T) (state : TaskState Waker T Error) :
    Option Waker × TaskState Waker T Error :=
  { state with result := some value }.finish

def setException (error : Error) (state : TaskState Waker T Error) :
    Option Waker × TaskState Waker T Error :=
  { state with exception := some error }.finish

def terminate (state : TaskState Waker T Error) :
    Terminal T Error → Option Waker × TaskState Waker T Error
  | .markDone => state.markDone
  | .setResult value => state.setResult value
  | .setException error => state.setException error

/-- What `JoinHandle::poll` reports of a task that has terminated -/
def outcome (state : TaskState Waker T Error) : PollResult T Error :=
  match state.exception, state.result with
  | some error, _ => .error error
  | none, some value => .ready value
  | none, none => .dropped

def poll (waker : Waker) (state : TaskState Waker T Error) :
    PollResult T Error × TaskState Waker T Error :=
  if state.terminated then (state.outcome, state)
  else (.pending, { state with waker := some waker })

def setWaker (waker : Waker) (state : TaskState Waker T Error) : TaskState Waker T Error :=
  { state with waker := some waker }

end TaskState

inductive Ending (Waker : Type u)
  | running
  | waking (waker : Option Waker)
  | ended
  deriving DecidableEq, Repr

inductive Parking (Waker : Type u)
  | entering
  /-- in `wait_for_wake()`, with the number of wakes that it has consumed -/
  | parked (parker : Waker) (consumed : Nat)
  | checking (parker : Waker)
  | returned
  deriving DecidableEq, Repr

inductive Holder (Scope : Type s) (Waker : Type u)
  | unborn
  /-- a `JoinHandle`, and its `m_finished` -/
  | handle (finished : Bool)
  | child (scope : Scope)
  | thread (parking : Parking Waker)
  | nobody
  deriving DecidableEq, Repr

structure Entry (Scope : Type s) (Waker : Type u) (T : Type v) (Error : Type w) where
  task : TaskState Waker T Error := {}
  ending : Ending Waker := .running
  /-- the last strong reference is gone -/
  expired : Bool := false
  holder : Holder Scope Waker := .unborn
  /-- the waiter whose last check found the task unfinished, and how often it had been woken
  by then -/
  watch : Option (Waker × Nat) := none

/-- After a poll of the handle by a waiter that has been woken `wakes` times -/
def Entry.poll {Scope : Type s} {Waker : Type u} {T : Type v} {Error : Type w} (waker : Waker)
    (wakes : Nat) (entry : Entry Scope Waker T Error) : Entry Scope Waker T Error :=
  let answered := entry.task.poll waker
  { entry with
    task := answered.2
    holder := .handle !answered.1.isPending
    watch := if answered.1.isPending then some (waker, wakes) else none }

def Entry.park {Scope : Type s} {Waker : Type u} {T : Type v} {Error : Type w} (parker : Waker)
    (wakes : Nat) (task : TaskState Waker T Error) (entry : Entry Scope Waker T Error) :
    Entry Scope Waker T Error :=
  { entry with
    task
    holder := .thread (.parked parker wakes)
    watch := some (parker, wakes) }

/-- Where a `CoroutineScope` is in `set_drain_waker()`. -/
inductive Drain (Task : Type t) (Waker : Type u)
  | idle
  /-- the first sweep: `kept` is unfinished, `rest` is not checked yet -/
  | pruning (waker : Waker) (kept rest : List Task)
  /-- the waker is stored in `stored` -/
  | storing (waker : Waker) (stored rest : List Task)
  | sweeping (waker : Waker) (kept rest : List Task)
  deriving DecidableEq, Repr

/-- What a call of `set_drain_waker()` has found: it returns whether it has kept any child. -/
structure Answer (Task : Type t) (Waker : Type u) where
  waker : Waker
  kept : List Task
  /-- the children that had been registered by then -/
  registered : List Task
  deriving DecidableEq, Repr

structure Scope (Task : Type t) (Waker : Type u) where
  pending : List Task := []
  drain : Drain Task Waker := .idle
  -- what has happened so far
  registered : List Task := []
  /-- of the last call, if no other has begun since -/
  answer : Option (Answer Task Waker) := none
  deriving DecidableEq, Repr

structure State (Task : Type t) (Scopes : Type s) (Waker : Type u) (T : Type v)
    (Error : Type w) where
  entry : Task → Entry Scopes Waker T Error := fun _ => {}
  scope : Scopes → Scope Task Waker := fun _ => {}
  wakes : Waker → Nat := fun _ => 0
  alive : Waker → Bool := fun _ => true

inductive Action (Task : Type t) (Scopes : Type s) (Waker : Type u) (T : Type v)
    (Error : Type w)
  | spawn (task : Task)
  /-- a task for `block_on()` -/
  | block (task : Task)
  | terminate (task : Task) (terminal : Terminal T Error)
  | wake (task : Task)
  /-- the executor and the handle let go of the task -/
  | free (task : Task)
  | poll (task : Task) (waker : Waker)
  /-- the handle is destroyed or overwritten, inside a coroutine with that scope if any -/
  | close (task : Task) (scope : Option Scopes)
  | detach (task : Task)
  /-- a call of `set_drain_waker()` begins -/
  | drain (scope : Scopes) (waker : Waker)
  /-- and makes its next move -/
  | proceed (scope : Scopes)
  | enter (task : Task) (parker : Waker)
  /-- `wait_for_wake()` returns -/
  | resume (task : Task)
  | check (task : Task)
  /-- something else wakes a waiter -/
  | stir (waker : Waker)
  | die (waker : Waker)
  deriving DecidableEq, Repr

variable {Task : Type t} {Scopes : Type s} {Waker : Type u} {T : Type v} {Error : Type w}
  [DecidableEq Task] [DecidableEq Scopes] [DecidableEq Waker]

namespace State

def setEntry (task : Task) (entry : Entry Scopes Waker T Error)
    (state : State Task Scopes Waker T Error) : State Task Scopes Waker T Error :=
  { state with entry := Function.update state.entry task entry }

def setScope (id : Scopes) (scope : Scope Task Waker) (state : State Task Scopes Waker T Error) :
    State Task Scopes Waker T Error :=
  { state with scope := Function.update state.scope id scope }

def wakeUp (waker : Waker) (state : State Task Scopes Waker T Error) :
    State Task Scopes Waker T Error :=
  { state with
    wakes := if state.alive waker then
        Function.update state.wakes waker (state.wakes waker + 1)
      else state.wakes }

/-- `if (auto w = wk.lock()) w->wake()` -/
def call (taken : Option Waker) (state : State Task Scopes Waker T Error) :
    State Task Scopes Waker T Error :=
  match taken with
  | some waker => state.wakeUp waker
  | none => state

/-- The check of both sweeps: `!t || t->is_complete()` -/
def isDone (task : Task) (state : State Task Scopes Waker T Error) : Bool :=
  (state.entry task).expired || (state.entry task).task.terminated

def waiting (scope : Scope Task Waker) : List Task :=
  match scope.drain with
  | .idle => scope.pending
  | .pruning _ kept rest | .storing _ kept rest | .sweeping _ kept rest => kept ++ rest

def leave (task : Task) (state : State Task Scopes Waker T Error) :
    State Task Scopes Waker T Error :=
  state.setEntry task { state.entry task with holder := .nobody, watch := none }

def watched (task : Task) (waker : Waker) (state : State Task Scopes Waker T Error) :
    State Task Scopes Waker T Error :=
  state.setEntry task
    { state.entry task with watch := some (waker, state.wakes waker) }

def unwatch (tasks : List Task) (state : State Task Scopes Waker T Error) :
    State Task Scopes Waker T Error :=
  { state with entry := fun task =>
      if task ∈ tasks then { state.entry task with watch := none } else state.entry task }

/-! ## The handle -/

def poll (task : Task) (waker : Waker) (state : State Task Scopes Waker T Error) :
    State Task Scopes Waker T Error :=
  state.setEntry task ((state.entry task).poll waker (state.wakes waker))

/-- `JoinHandle::close`: what it cancels is the task itself, whose waiters do not notice. -/
def close (task : Task) (finished : Bool) (scope : Option Scopes)
    (state : State Task Scopes Waker T Error) : State Task Scopes Waker T Error :=
  match finished, scope with
  | false, some id =>
    let parent := state.scope id
    (state.setEntry task { state.entry task with holder := .child id, watch := none }).setScope
      id { parent with
        pending := parent.pending ++ [task]
        registered := parent.registered ++ [task] }
  | _, _ => state.leave task

/-! ## The scope -/

def drain (id : Scopes) (waker : Waker) (state : State Task Scopes Waker T Error) :
    State Task Scopes Waker T Error :=
  let scope := state.scope id
  if scope.pending.isEmpty then
    state.setScope id { scope with answer := some ⟨waker, [], scope.registered⟩ }
  else (state.unwatch scope.pending).setScope id
    { scope with drain := .pruning waker [] scope.pending, answer := none }

def proceed (id : Scopes) (state : State Task Scopes Waker T Error) :
    Option (State Task Scopes Waker T Error) :=
  let scope := state.scope id
  match scope.drain with
  | .idle => none
  | .pruning waker kept (child :: rest) =>
    if state.isDone child then
      some ((state.leave child).setScope id { scope with drain := .pruning waker kept rest })
    else some (state.setScope id { scope with drain := .pruning waker (kept ++ [child]) rest })
  | .pruning waker kept [] =>
    some (state.setScope id (if kept.isEmpty then
      { scope with pending := [], drain := .idle, answer := some ⟨waker, [], scope.registered⟩ }
      else { scope with pending := kept, drain := .storing waker [] kept }))
  | .storing waker stored (child :: rest) =>
    let entry := state.entry child
    some ((if entry.expired then state
      else state.setEntry child { entry with task := entry.task.setWaker waker }).setScope id
        { scope with drain := .storing waker (stored ++ [child]) rest })
  | .storing waker stored [] =>
    some (state.setScope id { scope with drain := .sweeping waker [] stored })
  | .sweeping waker kept (child :: rest) =>
    if state.isDone child then
      some ((state.leave child).setScope id { scope with drain := .sweeping waker kept rest })
    else some ((state.watched child waker).setScope id
      { scope with drain := .sweeping waker (kept ++ [child]) rest })
  | .sweeping waker kept [] =>
    some (state.setScope id
      { scope with
        pending := kept, drain := .idle, answer := some ⟨waker, kept, scope.registered⟩ })

/-! ## The thread -/

def finishWait (task : Task) (state : State Task Scopes Waker T Error) :
    State Task Scopes Waker T Error :=
  state.setEntry task { state.entry task with holder := .thread .returned, watch := none }

/-- The first critical section of `wait_until_done()` -/
def enter (task : Task) (parker : Waker) (state : State Task Scopes Waker T Error) :
    State Task Scopes Waker T Error :=
  let entry := state.entry task
  if entry.task.terminated then state.finishWait task
  else state.setEntry task
    (entry.park parker (state.wakes parker) (entry.task.setWaker parker))

/-- The critical section in its loop, which stores no waker -/
def check (task : Task) (parker : Waker) (state : State Task Scopes Waker T Error) :
    State Task Scopes Waker T Error :=
  let entry := state.entry task
  if entry.task.terminated then state.finishWait task
  else state.setEntry task (entry.park parker (state.wakes parker) entry.task)

end State

def step (state : State Task Scopes Waker T Error) :
    Action Task Scopes Waker T Error → Option (State Task Scopes Waker T Error)
  | .spawn task =>
    match (state.entry task).holder with
    | .unborn => some (state.setEntry task { state.entry task with holder := .handle false })
    | _ => none
  | .block task =>
    match (state.entry task).holder with
    | .unborn => some (state.setEntry task { state.entry task with holder := .thread .entering })
    | _ => none
  | .terminate task terminal =>
    let entry := state.entry task
    if entry.holder ≠ .unborn ∧ entry.ending = .running then
      let ended := entry.task.terminate terminal
      some (state.setEntry task { entry with task := ended.2, ending := .waking ended.1 })
    else none
  | .wake task =>
    match (state.entry task).ending with
    | .waking waker =>
      some ((state.setEntry task { state.entry task with ending := .ended }).call waker)
    | _ => none
  | .free task =>
    let entry := state.entry task
    if entry.ending = .ended then
      match entry.holder with
      | .child _ | .nobody | .thread .returned =>
        some (state.setEntry task { entry with expired := true })
      | _ => none
    else none
  | .poll task waker =>
    match (state.entry task).holder with
    | .handle _ => some (state.poll task waker)
    | _ => none
  | .close task scope =>
    match (state.entry task).holder with
    | .handle finished =>
      if scope.all fun id => (state.scope id).drain = .idle then
        some (state.close task finished scope)
      else none
    | _ => none
  | .detach task =>
    match (state.entry task).holder with
    | .handle _ => some (state.leave task)
    | _ => none
  | .drain scope waker =>
    if (state.scope scope).drain = .idle then some (state.drain scope waker) else none
  | .proceed scope => state.proceed scope
  | .enter task parker =>
    match (state.entry task).holder with
    | .thread .entering => some (state.enter task parker)
    | _ => none
  | .resume task =>
    match (state.entry task).holder with
    | .thread (.parked parker consumed) =>
      if consumed < state.wakes parker then
        some (state.setEntry task
          { state.entry task with holder := .thread (.checking parker) })
      else none
    | _ => none
  | .check task =>
    match (state.entry task).holder with
    | .thread (.checking parker) => some (state.check task parker)
    | _ => none
  | .stir waker => some (state.wakeUp waker)
  | .die waker =>
    some { state with alive := Function.update state.alive waker false }

def machine : Machine (State Task Scopes Waker T Error) (Action Task Scopes Waker T Error) where
  initial := {}
  step := step

end CoroRuntime.Completion
