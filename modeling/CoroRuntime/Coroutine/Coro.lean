import CoroRuntime.Foundation.Execution
import Mathlib.Data.List.Basic

/-! # Coroutines and their scope

One `Coro<T>` or `CoroStream<T>` with its `CoroutineScope`, the handles to child tasks
that its frame holds, and the children. The body and the awaited future may do
anything that they can do to a handle. The children make progress between any two
moves, also within a poll.
-/

namespace CoroRuntime.Coroutine

open Foundation

inductive Kind
  | coro
  | stream (hasFinalValue : Bool)
  deriving DecidableEq, Repr

inductive TaskStatus
  | unspawned
  /-- `cancelled` is the flag that `cancel_task()` sets. -/
  | running (cancelled : Bool)
  | terminated
  /-- Released by the executor, which owns a task until it has terminated. -/
  | expired
  deriving DecidableEq, Repr

/-- `is_done` of the scope's sweeps: the weak reference has expired, or the task it
leads to is complete. -/
def TaskStatus.isDone : TaskStatus → Bool
  | .terminated | .expired => true
  | .unspawned | .running _ => false

def TaskStatus.cancelTask : TaskStatus → TaskStatus
  | .running _ => .running true
  | status => status

inductive HandleKind
  | joinHandle (cancelOnDestroy : Bool)
  | streamHandle
  /-- One task of a `JoinSet`. -/
  | joinSet
  deriving DecidableEq, Repr

/-- Whether `close()` cancels a task that it does not know to be finished. -/
def HandleKind.cancelsOnDestroy : HandleKind → Bool
  | .joinHandle cancelOnDestroy => cancelOnDestroy
  | .streamHandle | .joinSet => true

inductive Place
  /-- A local or a temporary of the body. -/
  | body
  /-- Within the future that the coroutine awaits. -/
  | awaited
  /-- A by-value parameter, or within one. -/
  | parameter
  deriving DecidableEq, Repr

structure Handle (Child : Type) where
  child : Child
  kind : HandleKind
  place : Place
  /-- Within the frame of another coroutine object in that place, which that object's
  destructor destroys. -/
  nested : Bool
  /-- The `m_finished` of a `JoinHandle`. For a task of a `JoinSet`: its node has left
  `pending_handles`. A `StreamHandle` does not keep track. -/
  finished : Bool
  deriving DecidableEq, Repr

inductive Frame
  | live
  /-- At the final suspend point, with or without `m_exception` and `m_final_value`. -/
  | done (failed finalValue : Bool)
  /-- `m_handle` is null. -/
  | destroyed
  deriving DecidableEq, Repr

inductive Outcome
  | pending
  | ready
  | error
  | dropped
  | item
  | ended
  deriving DecidableEq, Repr

def Outcome.isFinal : Outcome → Bool
  | .ready | .error | .dropped | .ended => true
  | .pending | .item => false

inductive Teardown
  | cancelled
  | completed
  | destructor
  deriving DecidableEq, Repr

inductive Goal
  | dropped
  | completed
  | suspended
  deriving DecidableEq, Repr

/-- Where the coroutine object is in its life and in its current poll. -/
inductive Phase
  | created
  | cancelling
  /-- In the `poll()` of the awaited future, before the body is resumed. -/
  | repolling
  /-- In the body. -/
  | resumed
  | destroying (reason : Teardown)
  /-- In `set_drain_waker()`, before its first or its second sweep. -/
  | draining (swept : Bool) (goal : Goal)
  | returned (outcome : Outcome)
  | gone
  deriving DecidableEq, Repr

inductive CurrentCoro
  | own
  /-- Another coroutine's scope, or null. -/
  | outside
  deriving DecidableEq, Repr

/-- A `CurrentCoroGuard` of the coroutine spans the resumption of the body and the
destruction of the frame, except for the destruction on completion. -/
def Phase.currentCoro : Phase → CurrentCoro
  | .resumed | .destroying .cancelled | .destroying .destructor => .own
  | _ => .outside

def Phase.isIdle : Phase → Bool
  | .created | .returned _ => true
  | _ => false

/-- The code that runs can get at the handles in that place. -/
def Phase.uses : Phase → Place → Bool
  | .resumed, _ => true
  | .cancelling, .awaited | .repolling, .awaited => true
  | _, _ => false

/-- The code that runs can destroy the handles in that place. -/
def Phase.destroys : Phase → Place → Bool
  | .destroying _, _ => true
  | phase, place => phase.uses place

structure CoroState (Child : Type) where
  status : Child → TaskStatus
  handles : List (Handle Child)
  frame : Frame
  /-- Whether the promise has its `m_poll_current` and `m_cancel_current`. -/
  pollCurrent : Bool
  cancelCurrent : Bool
  cancelled : Bool
  cancelDraining : Bool
  pending : List Child
  phase : Phase
  /-- History: the children whose handle was destroyed in this coroutine when it was
  neither detached nor known to be finished. -/
  dropped : List Child

inductive Move (Child : Type)
  | poll
  | cancel
  | destructor
  /-- The calls of the awaited future and of `m_handle.destroy()` return. -/
  | cancelReturns
  | repollReturns (ready : Bool)
  | destroyReturns
  | sweep
  /-- The body suspends or ends. -/
  | await (cancellable : Bool)
  | yield
  | complete (failed finalValue : Bool)
  /-- What code in the coroutine does to a handle. -/
  | spawn (child : Child) (kind : HandleKind) (place : Place) (nested : Bool)
  | move (child : Child) (place : Place) (nested : Bool)
  | handOver (child : Child)
  | detach (child : Child)
  | seeFinished (child : Child)
  | close (child : Child)
  /-- The children and their other owners. -/
  | cancelTask (child : Child)
  | terminate (child : Child)
  | onTaskComplete (child : Child)
  | release (child : Child)
  deriving DecidableEq, Repr

namespace CoroState

variable {Child : Type}
variable (state : CoroState Child)

section Poll

def give (outcome : Outcome) : CoroState Child :=
  { state with phase := .returned outcome }

/-- The rest of `poll()` when the scope has no child left to wait for. -/
def drained (kind : Kind) : Goal → CoroState Child
  | .dropped => state.give .dropped
  | .suspended => state.give .pending
  | .completed =>
    match kind, state.frame with
    | .coro, _ => { state with phase := .destroying .completed }
    | .stream _, .done true _ => state.give .error
    | .stream _, _ => state.give .ended

/-- `if (!m_scope.empty() && m_scope.set_drain_waker(..)) return PollPending;` up to the
first sweep. -/
def drain (kind : Kind) (goal : Goal) : CoroState Child :=
  match state.pending with
  | [] => state.drained kind goal
  | _ => { state with phase := .draining false goal }

/-- A sweep of `set_drain_waker()`. The wakers are installed between the first and the
second. -/
def sweep (kind : Kind) (swept : Bool) (goal : Goal) : CoroState Child :=
  match state.pending.filter fun child => !(state.status child).isDone with
  | [] => { state with pending := [] }.drained kind goal
  | left =>
    if swept then { state with pending := left }.give .pending
    else { state with pending := left, phase := .draining true goal }

def finish (kind : Kind) : CoroState Child :=
  match kind, state.frame with
  | .stream true, .done failed true =>
    -- the final value goes out before any child is waited for
    { state with frame := .done failed false }.give .item
  | _, _ => state.drain kind .completed

def awaitedDrained (kind : Kind) : CoroState Child :=
  { state with
    pollCurrent := false
    -- a stream has cleared it when it called `cancel()`
    cancelCurrent := if kind = .coro then false else state.cancelCurrent
    cancelDraining := false
    phase := .destroying .cancelled }

/-- The cancelled path after the awaited future has been cancelled, if it had to be. -/
def drainAwaited (kind : Kind) : CoroState Child :=
  if state.cancelDraining then
    if state.pollCurrent then { state with phase := .repolling } else state.awaitedDrained kind
  else { state with phase := .destroying .cancelled }

def poll (kind : Kind) : CoroState Child :=
  match state.cancelled, state.frame with
  | true, .live =>
    if !state.cancelDraining && state.cancelCurrent then { state with phase := .cancelling }
    else state.drainAwaited kind
  | true, _ => state.drain kind .dropped
  | false, .destroyed => state.give (if kind = Kind.coro then .pending else .ended)
  | false, .done _ _ => state.finish kind
  | false, .live =>
    { state with phase := if state.pollCurrent then .repolling else .resumed }

def cancelReturns (kind : Kind) : CoroState Child :=
  { state with
    cancelCurrent := if kind = Kind.coro then state.cancelCurrent else false
    cancelDraining := true }.drainAwaited kind

def repollReturns (kind : Kind) (ready : Bool) : CoroState Child :=
  if !ready then state.give .pending
  else if state.cancelled then state.awaitedDrained kind
  else { state with pollCurrent := false, cancelCurrent := false, phase := .resumed }

def destroyReturns (kind : Kind) : Teardown → CoroState Child
  | .cancelled => { state with frame := .destroyed }.drain kind .dropped
  | .destructor => { state with frame := .destroyed, phase := .gone }
  | .completed =>
    match state.frame with
    | .done true _ => { state with frame := .destroyed }.give .error
    | _ => { state with frame := .destroyed }.give .ready

end Poll

section Handles

variable [DecidableEq Child] (state : CoroState Child)

def find (child : Child) : Option (Handle Child) :=
  state.handles.find? fun handle => handle.child = child

def remove (handle : Handle Child) : CoroState Child :=
  { state with handles := state.handles.erase handle }

def setStatus (child : Child) (status : TaskStatus) : CoroState Child :=
  { state with status := Function.update state.status child status }

/-- What `t_current_coro` points at when the handle is destroyed. The destructor of
another coroutine object has made it point at the scope of that object. -/
def currentCoro (handle : Handle Child) : CurrentCoro :=
  if handle.nested then .outside else state.phase.currentCoro

def addChild (handle : Handle Child) : CoroState Child :=
  { state with
    pending := match state.currentCoro handle with
      | .own => state.pending ++ [handle.child]
      | .outside => state.pending }

def close (handle : Handle Child) : CoroState Child :=
  let removed := state.remove handle
  if handle.finished then removed
  else
    let asked := if handle.kind.cancelsOnDestroy then
        removed.setStatus handle.child (removed.status handle.child).cancelTask
      else removed
    { asked.addChild handle with dropped := state.dropped ++ [handle.child] }

def used (child : Child) : Option (Handle Child) :=
  (state.find child).filter fun handle => state.phase.uses handle.place

def replace (handle changed : Handle Child) : CoroState Child :=
  { state with handles := changed :: state.handles.erase handle }

end Handles

def step (kind : Kind) [DecidableEq Child] (state : CoroState Child) :
    Move Child → Option (CoroState Child)
  | .poll => if state.phase.isIdle then some (state.poll kind) else none
  | .cancel => if state.phase.isIdle then some { state with cancelled := true } else none
  | .destructor =>
    if state.phase.isIdle then
      some { state with
        phase := if state.frame = .destroyed then .gone else .destroying .destructor }
    else none
  | .cancelReturns =>
    if state.phase = .cancelling then some (state.cancelReturns kind) else none
  | .repollReturns ready =>
    if state.phase = .repolling then some (state.repollReturns kind ready) else none
  | .destroyReturns =>
    match state.phase, state.handles with
    | .destroying reason, [] => some (state.destroyReturns kind reason)
    | _, _ => none
  | .sweep =>
    match state.phase with
    | .draining swept goal => some (state.sweep kind swept goal)
    | _ => none
  | .await cancellable =>
    if state.phase = .resumed then
      some ({ state with
        pollCurrent := true
        cancelCurrent := state.cancelCurrent || cancellable }.drain kind .suspended)
    else none
  | .yield =>
    if state.phase = .resumed ∧ kind ≠ .coro then some (state.give .item) else none
  | .complete failed finalValue =>
    -- the locals and temporaries of the body are destroyed before the final suspend point
    if state.phase = .resumed ∧ (finalValue → kind = .stream true) ∧
        ∀ handle ∈ state.handles, handle.place = .parameter then
      some ({ state with frame := .done failed finalValue }.finish kind)
    else none
  | .spawn child handleKind place nested =>
    if state.phase.uses place ∧ state.status child = .unspawned then
      some { state.setStatus child (.running false) with
        handles := ⟨child, handleKind, place, nested, false⟩ :: state.handles }
    else none
  | .move child place nested =>
    match state.used child with
    | some handle =>
      if state.phase.uses place then
        some (state.replace handle { handle with place := place, nested := nested })
      else none
    | none => none
  | .handOver child => (state.used child).map state.remove
  | .detach child =>
    match state.used child with
    | some handle =>
      match handle.kind with
      | .joinHandle _ => some (state.remove handle)
      | _ => none
    | none => none
  | .seeFinished child =>
    match state.used child with
    | some handle =>
      match handle.kind with
      | .joinHandle _ =>
        if (state.status child).isDone then
          some (state.replace handle { handle with finished := true })
        else none
      | _ => none
    | none => none
  | .close child =>
    match state.find child with
    | some handle =>
      if state.phase.destroys handle.place then some (state.close handle) else none
    | none => none
  | .cancelTask child => some (state.setStatus child (state.status child).cancelTask)
  | .terminate child =>
    match state.status child with
    | .running _ => some (state.setStatus child .terminated)
    | _ => none
  | .onTaskComplete child =>
    -- runs after `terminated` has been set
    match state.find child with
    | some handle =>
      if handle.kind = .joinSet ∧ (state.status child).isDone then
        some (state.replace handle { handle with finished := true })
      else none
    | none => none
  | .release child =>
    if state.status child = .terminated then some (state.setStatus child .expired) else none

end CoroState

/-- A handle that a coroutine is given by value, directly or within the frame of another
coroutine. -/
structure Parameter (Child : Type) where
  child : Child
  kind : HandleKind
  nested : Bool
  deriving DecidableEq, Repr

def newCoro [DecidableEq Child] (parameters : List (Parameter Child)) : CoroState Child where
  status := fun child =>
    if child ∈ parameters.map Parameter.child then .running false else .unspawned
  handles := parameters.map fun given =>
    ⟨given.child, given.kind, .parameter, given.nested, false⟩
  frame := .live
  pollCurrent := false
  cancelCurrent := false
  cancelled := false
  cancelDraining := false
  pending := []
  phase := .created
  dropped := []

def coroMachine [DecidableEq Child] (kind : Kind) (parameters : List (Parameter Child)) :
    Machine (CoroState Child) (Move Child) where
  initial := newCoro parameters
  step := CoroState.step kind

end CoroRuntime.Coroutine
