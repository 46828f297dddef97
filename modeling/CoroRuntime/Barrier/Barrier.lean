import CoroRuntime.Foundation.Execution

/-! # The barrier

`include/coro/sync/barrier.h`: `n` tasks that wait for each other, round after round. Each
critical section is one move, and so is each call of a waker that the leader makes after its
own. The 64-bit generation is a natural number.
-/

namespace CoroRuntime.Barrier

open Foundation

/-- Released wakers held without a vector allocation: `kInlineWakers` -/
def inlineCapacity : Nat := 16

inductive PollResult
  | pending
  | ready (leader : Bool)
  /-- the vector of wakers could not be allocated -/
  | error
  deriving DecidableEq, Repr

/-- `State`, with the members that it gives a meaning to. -/
inductive Phase
  | init
  | waiting (generation : Nat)
  | done (leader : Bool)
  deriving DecidableEq, Repr

structure WaitFuture (Waker : Type v) where
  phase : Phase := .init
  waker : Option Waker := none
  deriving DecidableEq, Repr

inductive Life (Waker : Type v)
  | unborn
  | alive (future : WaitFuture Waker)
  | dropped
  deriving DecidableEq, Repr

/-- A waker, and the future whose node it was taken from. -/
abbrev Call (Id : Type u) (Waker : Type v) := Id × Option Waker

/-- The call wakes that future; one through a null waker never returns. -/
def wakesFuture {Id : Type u} {Waker : Type v} [DecidableEq Id] (id : Id)
    (call : Call Id Waker) : Bool :=
  call.1 = id && call.2.isSome

structure State (Id : Type u) (Waker : Type v) where
  arrived : Nat := 0
  generation : Nat := 0
  waiters : List Id := []
  futures : Id → Life Waker := fun _ => .unborn
  /-- the wakers that leaders have still to call -/
  waking : List (Call Id Waker) := []
  /-- History: who has arrived, in order. -/
  arrivals : List Id := []
  /-- History: who was linked when its round was released. -/
  released : List Id := []
  /-- History: whose wakers have been called. -/
  woken : List Id := []

section Release

variable {Item : Type u}

/-- The loop that moves the items of the list into an array, from that place on. -/
def fillInline : List Item → Nat → List (Option Item) → List (Option Item) × Nat
  | [], woken, slots => (slots, woken)
  | item :: rest, woken, slots => fillInline rest (woken + 1) (slots.set woken (some item))

/-- What the leader finds in its local variables when it comes to wake the others. -/
def collected (items : List Item) : List (Option Item) :=
  if inlineCapacity < items.length then items.map some
  else
    let filled := fillInline items 0 (List.replicate inlineCapacity none)
    filled.1.take filled.2

end Release

namespace State

variable {Id : Type u} {Waker : Type v} [DecidableEq Id]

def put (id : Id) (life : Life Waker) (state : State Id Waker) : State Id Waker :=
  { state with futures := Function.update state.futures id life }

def nodeWaker (state : State Id Waker) (id : Id) : Option Waker :=
  match state.futures id with
  | .alive future => future.waker
  | _ => none

/-- The leader takes the wakers out and unlinks every node. -/
def release (state : State Id Waker) : State Id Waker :=
  let calls := state.waiters.map fun id => (id, state.nodeWaker id)
  { state with
    generation := state.generation + 1
    arrived := 0
    waiters := []
    waking := state.waking ++ (collected calls).filterMap (fun call => call)
    futures := fun id =>
      match state.futures id with
      | .alive future =>
        .alive (if id ∈ state.waiters then { future with waker := none } else future)
      | life => life
    released := state.released ++ state.waiters }

/-- The first poll of a future. `allocates` says whether a vector could be allocated. -/
def arrive (n : Nat) (state : State Id Waker) (id : Id) (waker : Waker) (allocates : Bool) :
    PollResult × State Id Waker :=
  if state.arrived + 1 < n then
    (.pending, { state with
      arrived := state.arrived + 1
      waiters := state.waiters ++ [id]
      arrivals := state.arrivals ++ [id] }.put id (.alive ⟨.waiting state.generation, some waker⟩))
  else if inlineCapacity < state.waiters.length ∧ allocates = false then (.error, state)
  else
    (.ready true, { state.release with arrivals := state.arrivals ++ [id] }.put id
      (.alive ⟨.done true, none⟩))

def poll (n : Nat) (state : State Id Waker) (id : Id) (future : WaitFuture Waker) (waker : Waker)
    (allocates : Bool) : PollResult × State Id Waker :=
  match future.phase with
  | .done leader => (.ready leader, state)
  | .waiting generation =>
    if state.generation ≠ generation then
      (.ready false, state.put id (.alive { future with phase := .done false }))
    else (.pending, state.put id (.alive { future with waker := some waker }))
  | .init => state.arrive n id waker allocates

def drop (state : State Id Waker) (id : Id) (future : WaitFuture Waker) : State Id Waker :=
  match future.phase with
  | .waiting generation =>
    if state.generation = generation then
      { state with waiters := state.waiters.erase id }.put id .dropped
    else state.put id .dropped
  | _ => state.put id .dropped

end State

inductive Move (Id : Type u) (Waker : Type v)
  | wait (future : Id)
  | poll (future : Id) (waker : Waker) (allocates : Bool)
  | drop (future : Id)
  | wake (future : Id)
  deriving DecidableEq, Repr

variable {Id : Type u} {Waker : Type v} [DecidableEq Id]

def step (n : Nat) (state : State Id Waker) : Move Id Waker → Option (State Id Waker)
  | .wait id =>
    match state.futures id with
    | .unborn => some (state.put id (.alive {}))
    | _ => none
  | .poll id waker allocates =>
    match state.futures id with
    | .alive future => some (state.poll n id future waker allocates).2
    | _ => none
  | .drop id =>
    match state.futures id with
    | .alive future => some (state.drop id future)
    | _ => none
  | .wake id =>
    if state.waking.any (wakesFuture id) then some { state with
      waking := state.waking.eraseP (wakesFuture id)
      woken := state.woken ++ [id] }
    else none

def barrierMachine (Id : Type u) (Waker : Type v) [DecidableEq Id] (n : Nat) :
    Machine (State Id Waker) (Move Id Waker) where
  initial := {}
  step := step n

end CoroRuntime.Barrier
