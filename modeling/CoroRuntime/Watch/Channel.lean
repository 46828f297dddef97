import CoroRuntime.Foundation.Execution
import Mathlib.Data.Fintype.Basic

/-! # The watch channel

`WatchShared` with its senders, `borrow_mut()` guards, receivers and `changed()`
futures. Each critical section of `value_mutex` or `waker_mutex` is one move, and so
is each call of a waker after it. The section of a `borrow_mut()` guard is the one
that its destructor ends.
-/

namespace CoroRuntime.Watch

open Foundation
open Function (update)

/-- A sender handle or a guard, and how far its current call is. -/
inductive Publishing (Waker : Type)
  | absent
  | sender
  | guard
  /-- The version is incremented, the waiters are not yet drained. -/
  | published (stays : Bool) (increment : Nat)
  /-- The wakers still to be called. The handle is gone afterwards unless it `stays`. -/
  | waking (stays : Bool) (wakers : List Waker)
  deriving DecidableEq, Repr

/-- Where a future is between the critical sections of `poll()`. `seen` is history:
the number of increments made before its first section. -/
inductive Polling (Waker : Type)
  | out
  | changed (current : BitVec 64)
  | unchanged (waker : Waker) (seen : Nat)
  deriving DecidableEq, Repr

inductive Status (Waker : Type)
  | created
  /-- Pending, and whether the waker of that poll has been called since. -/
  | pending (waker : Waker) (woken : Bool)
  | changed
  | senderDropped
  deriving DecidableEq, Repr

structure ChangedFuture (Receiver Waker : Type) where
  receiver : Receiver
  lastSeen : BitVec 64
  nodeWaker : Option Waker
  polling : Polling Waker
  status : Status Waker
  deriving DecidableEq, Repr

structure WatchState (Publisher Receiver Future Waker T : Type) where
  value : T
  version : BitVec 64
  /-- History: how often the version was incremented. -/
  increments : Nat
  receiverWaiters : List Future
  receiverCount : Nat
  senderCount : Nat
  publisher : Publisher → Publishing Waker
  /-- The `m_last_seen` of the receivers that exist. -/
  receiver : Receiver → Option (BitVec 64)
  future : Future → Option (ChangedFuture Receiver Waker)

inductive Move (Publisher Receiver Future Waker T : Type)
  | cloneSender (source target : Publisher)
  | borrowMut (source guard : Publisher)
  | send (publisher : Publisher) (value : T)
  | sendIfModified (publisher : Publisher) (modify : T → T × Bool)
  | dropGuard (guard : Publisher) (mutate : T → T)
  | drain (publisher : Publisher)
  | wake (publisher : Publisher)
  | finish (publisher : Publisher)
  | close (publisher : Publisher)
  | cloneReceiver (target : Receiver)
  | closeReceiver (receiver : Receiver)
  | borrowAndUpdate (receiver : Receiver)
  | changed (receiver : Receiver) (future : Future)
  | pollCheck (future : Future) (waker : Waker)
  | pollChanged (future : Future)
  | pollRegister (future : Future)
  | dropFuture (future : Future)

namespace WatchState

variable {Publisher Receiver Future Waker T : Type} [DecidableEq Publisher]
  [DecidableEq Receiver] [DecidableEq Future] [DecidableEq Waker]
variable (state : WatchState Publisher Receiver Future Waker T)

def setPublisher (publisher : Publisher)
    (phase : Publishing Waker) : WatchState Publisher Receiver Future Waker T :=
  { state with publisher := update state.publisher publisher phase }

def setFuture (future : Future)
    (contents : Option (ChangedFuture Receiver Waker)) :
    WatchState Publisher Receiver Future Waker T :=
  { state with future := update state.future future contents }

def publish (publisher : Publisher)
    (stays : Bool) (value : T) : WatchState Publisher Receiver Future Waker T :=
  { state with
    value := value
    version := state.version + 1
    increments := state.increments + 1 }.setPublisher publisher
      (.published stays (state.increments + 1))

def waiterWakers : List Waker :=
  state.receiverWaiters.filterMap fun waiter =>
    (state.future waiter).bind ChangedFuture.nodeWaker

def unlinkWaiters : WatchState Publisher Receiver Future Waker T :=
  { state with
    receiverWaiters := []
    future := fun waiter =>
      if waiter ∈ state.receiverWaiters then
        (state.future waiter).map fun future => { future with nodeWaker := none }
      else state.future waiter }

def drainWaiters (publisher : Publisher)
    (stays : Bool) : WatchState Publisher Receiver Future Waker T :=
  state.unlinkWaiters.setPublisher publisher (.waking stays state.waiterWakers)

end WatchState

def ChangedFuture.woken [DecidableEq Waker] (future : ChangedFuture Receiver Waker)
    (called : Waker) : ChangedFuture Receiver Waker :=
  match future.status with
  | .pending waker woken => { future with status := .pending waker (woken || waker = called) }
  | _ => future

namespace WatchState

variable {Publisher Receiver Future Waker T : Type} [DecidableEq Publisher]
  [DecidableEq Receiver] [DecidableEq Future] [DecidableEq Waker]
variable (state : WatchState Publisher Receiver Future Waker T)

def callWaker (called : Waker) : WatchState Publisher Receiver Future Waker T :=
  { state with future := fun future => (state.future future).map (·.woken called) }

/-- The first critical section of `WatchChangedFuture::poll()`. -/
def pollCheck (id : Future)
    (future : ChangedFuture Receiver Waker) (waker : Waker) :
    WatchState Publisher Receiver Future Waker T :=
  if state.version ≠ future.lastSeen then
    state.setFuture id (some { future with polling := .changed state.version })
  else
    state.setFuture id (some { future with polling := .unchanged waker state.increments })

/-- The second critical section after a change: unlink, mark the version seen. -/
def pollChanged (id : Future)
    (future : ChangedFuture Receiver Waker) (current : BitVec 64) :
    WatchState Publisher Receiver Future Waker T :=
  { state with
    receiverWaiters := state.receiverWaiters.erase id
    receiver := update state.receiver future.receiver
      ((state.receiver future.receiver).map fun _ => current) }.setFuture id
      (some { future with polling := .out, status := .changed })

/-- The second critical section without a change: report that no sender is left, or
link the node at the end of the waiters. -/
def pollRegister (id : Future)
    (future : ChangedFuture Receiver Waker) (waker : Waker) :
    WatchState Publisher Receiver Future Waker T :=
  if state.senderCount = 0 then
    { state with receiverWaiters := state.receiverWaiters.erase id }.setFuture id
      (some { future with polling := .out, status := .senderDropped })
  else
    { state with receiverWaiters := state.receiverWaiters.erase id ++ [id] }.setFuture id
      (some { future with
        nodeWaker := some waker
        polling := .out
        status := .pending waker false })

def close (publisher : Publisher) : WatchState Publisher Receiver Future Waker T :=
  let left := { state with senderCount := state.senderCount - 1 }
  if left.senderCount = 0 then left.drainWaiters publisher false
  else left.setPublisher publisher (.waking false [])

def step :
    Move Publisher Receiver Future Waker T →
      Option (WatchState Publisher Receiver Future Waker T)
  | .cloneSender source target =>
    if state.publisher source = .sender ∧ state.publisher target = .absent then
      some ({ state with senderCount := state.senderCount + 1 }.setPublisher target .sender)
    else none
  | .borrowMut source guard =>
    if state.publisher source = .sender ∧ state.publisher guard = .absent then
      some (state.setPublisher guard .guard)
    else none
  | .send publisher value =>
    if state.publisher publisher = .sender then
      -- with no receiver left the value is handed back
      some (if state.receiverCount = 0 then state else state.publish publisher true value)
    else none
  | .sendIfModified publisher modify =>
    if state.publisher publisher = .sender then
      let (value, modified) := modify state.value
      some (if modified then state.publish publisher true value
        else { state with value := value })
    else none
  | .dropGuard guard mutate =>
    if state.publisher guard = .guard then
      some (state.publish guard false (mutate state.value))
    else none
  | .drain publisher =>
    match state.publisher publisher with
    | .published stays _ => some (state.drainWaiters publisher stays)
    | _ => none
  | .wake publisher =>
    match state.publisher publisher with
    | .waking stays (waker :: wakers) =>
      some ((state.callWaker waker).setPublisher publisher (.waking stays wakers))
    | _ => none
  | .finish publisher =>
    match state.publisher publisher with
    | .waking stays [] => some (state.setPublisher publisher (if stays then .sender else .absent))
    | _ => none
  | .close publisher =>
    if state.publisher publisher = .sender then some (state.close publisher) else none
  | .cloneReceiver target =>
    if state.receiver target = none then
      some { state with
        receiverCount := state.receiverCount + 1
        receiver := update state.receiver target (some 0) }
    else none
  | .closeReceiver receiver =>
    if (state.receiver receiver).isSome then
      some { state with
        receiverCount := state.receiverCount - 1
        receiver := update state.receiver receiver none }
    else none
  | .borrowAndUpdate receiver =>
    if (state.receiver receiver).isSome then
      some { state with
        receiver := update state.receiver receiver (some state.version) }
    else none
  | .changed receiver id =>
    match state.receiver receiver, state.future id with
    | some lastSeen, none =>
      some (state.setFuture id (some ⟨receiver, lastSeen, none, .out, .created⟩))
    | _, _ => none
  | .pollCheck id waker =>
    match state.future id with
    | some future =>
      -- not again after it has resolved
      if future.polling = .out ∧ future.status ≠ .changed ∧ future.status ≠ .senderDropped then
        some (state.pollCheck id future waker)
      else none
    | none => none
  | .pollChanged id =>
    match state.future id with
    | some future =>
      match future.polling with
      | .changed current => some (state.pollChanged id future current)
      | _ => none
    | none => none
  | .pollRegister id =>
    match state.future id with
    | some future =>
      match future.polling with
      | .unchanged waker _ => some (state.pollRegister id future waker)
      | _ => none
    | none => none
  | .dropFuture id =>
    match state.future id with
    | some future =>
      if future.polling = .out then
        some ({ state with receiverWaiters := state.receiverWaiters.erase id }.setFuture id
          none)
      else none
    | none => none

end WatchState

def watchChannel [DecidableEq Publisher] [DecidableEq Receiver] (sender : Publisher)
    (receiver : Receiver) (initial : T) : WatchState Publisher Receiver Future Waker T where
  value := initial
  version := 0
  increments := 0
  receiverWaiters := []
  receiverCount := 1
  senderCount := 1
  publisher := update (fun _ => .absent) sender .sender
  receiver := update (fun _ => none) receiver (some 0)
  future := fun _ => none

def watchMachine (Future Waker : Type) [DecidableEq Publisher] [DecidableEq Receiver]
    [DecidableEq Future] [DecidableEq Waker] (sender : Publisher) (receiver : Receiver)
    (initial : T) :
    Machine (WatchState Publisher Receiver Future Waker T)
      (Move Publisher Receiver Future Waker T) where
  initial := watchChannel sender receiver initial
  step := WatchState.step

end CoroRuntime.Watch
