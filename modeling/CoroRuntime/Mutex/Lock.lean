import CoroRuntime.Foundation.Execution

/-! # The async mutex

`Mutex<T>` with its `lock()` futures and the guards they resolve to. Each critical
section of the internal mutex is one move, and so are each move and each destruction of
a guard and each call of a waker. A `PollResult` or an awaitable that holds a guard on
its way out of `poll()` is a guard object like any other.
-/

namespace CoroRuntime.Mutex

open Foundation
open Function (update)

/-- What `coro::detail::Mutex` is on the platform. -/
inductive InternalMutex
  /-- `std::mutex`: a thread that locks it again never gets any further. -/
  | standard
  /-- `CORO_PICO`: locking does nothing. -/
  | noOp
  deriving DecidableEq, Repr

inductive GuardMoves
  /-- As the source declares it: the defaulted moves copy `m_mutex`. -/
  | defaulted
  /-- The reading in which an acquisition is released once, when its last guard goes
  away: a guard that was moved from is empty, one that is overwritten is released. -/
  | counted
  deriving DecidableEq, Repr

/-- `m_mutex`, null or not. The number is history: the acquisition it comes from. -/
structure MutexGuard where
  mutex : Option Nat
  deriving DecidableEq, Repr

namespace MutexGuard

def movedFrom : GuardMoves → MutexGuard → MutexGuard
  | .defaulted, guard => guard
  | .counted, _ => ⟨none⟩

def overwritten : GuardMoves → MutexGuard → MutexGuard
  | .defaulted, _ => ⟨none⟩
  | .counted, guard => guard

end MutexGuard

inductive LockStatus (Waker : Type)
  | created
  /-- Pending, and whether the waker of that poll has been called since. -/
  | pending (waker : Waker) (woken : Bool)
  | ready
  deriving DecidableEq, Repr

def LockStatus.woken [DecidableEq Waker] (called : Waker) : LockStatus Waker → LockStatus Waker
  | .pending waker woken => .pending waker (woken || waker = called)
  | status => status

structure MutexState (Guard Future Waker : Type) where
  locked : Bool
  waiters : List Waker
  /-- A thread has locked the internal mutex twice: it is never unlocked again. -/
  seized : Bool
  /-- The wakers that releases have taken out and not yet called. -/
  waking : List Waker
  guard : Guard → Option MutexGuard
  future : Future → Option (LockStatus Waker)
  /-- History: how often the mutex was acquired. -/
  acquisitions : Nat
  /-- History: the guard that an acquisition was last moved to, while there is one. -/
  holder : Nat → Option Guard
  /-- History: how often a guard of the acquisition has called `release()`. -/
  released : Nat → Nat
  /-- History: `release()` was called by a thread that held the internal mutex. -/
  reentered : Bool
  /-- History: how many releases took a waker out of `m_waiters`. -/
  handed : Nat
  /-- History: the waiting futures in the order of their first Pending polls. -/
  arrivals : List Future

inductive Move (Guard Future Waker : Type)
  | lock (future : Future)
  | poll (future : Future) (waker : Waker) (result : Guard)
  | dropFuture (future : Future)
  | moveConstruct (source target : Guard)
  | moveAssign (source target : Guard)
  | destroy (guard : Guard)
  | wake
  deriving DecidableEq, Repr

namespace MutexState

variable {Guard Future Waker : Type} [DecidableEq Guard] [DecidableEq Future]
  [DecidableEq Waker] (internal : InternalMutex) (moves : GuardMoves)
variable (state : MutexState Guard Future Waker)

def release : MutexState Guard Future Waker :=
  match state.waiters with
  | [] => { state with locked := false }
  | waker :: waiters =>
    -- the mutex stays locked
    { state with
      waiters := waiters
      waking := state.waking ++ [waker]
      handed := state.handed + 1 }

/-- `~MutexGuard()`, perhaps on a thread that is in a critical section. -/
def destroyGuard (insideSection : Bool) (state : MutexState Guard Future Waker)
    (guard : MutexGuard) : MutexState Guard Future Waker :=
  match guard.mutex with
  | none => state
  | some acquisition =>
    let called := { state with
      released := update state.released acquisition (state.released acquisition + 1)
      reentered := state.reentered || insideSection }
    match insideSection, internal with
    | true, .standard => { called with seized := true }
    | _, _ => called.release

def giveUp (id : Guard) (left : Option MutexGuard) : MutexState Guard Future Waker :=
  { state with
    guard := update state.guard id left
    holder := fun acquisition =>
      if state.holder acquisition = some id then none else state.holder acquisition }

def transfer (source target : Guard)
    (guard : MutexGuard) : MutexState Guard Future Waker :=
  { state with
    guard := update (update state.guard target (some guard)) source
      (some (guard.movedFrom moves))
    holder := fun acquisition =>
      if state.holder acquisition = some source then some target
      else state.holder acquisition }

/-- `LockFuture::poll()` on a free mutex. The parameter of `PollResult(T value)` is moved
into the result and destroyed before the critical section ends. -/
def acquire (id : Future) (result : Guard) : MutexState Guard Future Waker :=
  let parameter : MutexGuard := ⟨some state.acquisitions⟩
  { state with
    locked := true
    guard := update state.guard result (some parameter)
    future := update state.future id (some .ready)
    acquisitions := state.acquisitions + 1
    holder := update state.holder state.acquisitions (some result)
    arrivals := state.arrivals.erase id }.destroyGuard internal true
      (parameter.movedFrom moves)

def enqueue (id : Future) (waker : Waker) : MutexState Guard Future Waker :=
  { state with
    waiters := state.waiters ++ [waker]
    future := update state.future id (some (.pending waker false))
    arrivals := if id ∈ state.arrivals then state.arrivals else state.arrivals ++ [id] }

def step :
    Move Guard Future Waker → Option (MutexState Guard Future Waker)
  | .lock id =>
    if state.future id = none then
      some { state with future := update state.future id (some .created) }
    else none
  | .poll id waker result =>
    match state.future id with
    | some status =>
      -- not again after it has resolved
      if state.seized ∨ status = .ready then none
      else if state.locked then some (state.enqueue id waker)
      else if state.guard result = none then some (state.acquire internal moves id result)
      else none
    | none => none
  | .dropFuture id =>
    if state.future id = none then none
    else some { state with
      future := update state.future id none
      arrivals := state.arrivals.erase id }
  | .moveConstruct source target =>
    match state.guard source, state.guard target with
    | some guard, none => some (state.transfer moves source target guard)
    | _, _ => none
  | .moveAssign source target =>
    match state.guard source, state.guard target with
    | some guard, some before =>
      if source = target then some state
      else if state.seized ∧ before.overwritten moves ≠ ⟨none⟩ then none
      else some (((state.giveUp target (some ⟨none⟩)).destroyGuard internal false
        (before.overwritten moves)).transfer moves source target guard)
    | _, _ => none
  | .destroy id =>
    match state.guard id with
    | some guard =>
      if state.seized ∧ guard ≠ ⟨none⟩ then none
      else some ((state.giveUp id none).destroyGuard internal false guard)
    | none => none
  | .wake =>
    match state.waking with
    | waker :: waking =>
      some { state with
        waking := waking
        future := fun id => (state.future id).map (LockStatus.woken waker) }
    | [] => none

end MutexState

def mutexMachine (Guard Future Waker : Type) [DecidableEq Guard] [DecidableEq Future]
    [DecidableEq Waker] (internal : InternalMutex) (moves : GuardMoves) :
    Machine (MutexState Guard Future Waker) (Move Guard Future Waker) where
  initial :=
    { locked := false
      waiters := []
      seized := false
      waking := []
      guard := fun _ => none
      future := fun _ => none
      acquisitions := 0
      holder := fun _ => none
      released := fun _ => 0
      reentered := false
      handed := 0
      arrivals := [] }
  step := MutexState.step internal moves

end CoroRuntime.Mutex
