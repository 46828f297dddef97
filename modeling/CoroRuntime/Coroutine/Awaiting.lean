import CoroRuntime.Coroutine.Effects

/-! # The awaited future

A coroutine together with the `FutureAwaitable` that it is suspended at, and with the
history that a statement about its cancellation reads.
-/

namespace CoroRuntime.Coroutine

open Foundation

/-- A `FutureAwaitable` whose `await_ready()` returned false. -/
structure FutureAwaitable where
  cancellable : Bool
  deferred : Bool
  /-- The `m_result` is not `Pending`. -/
  resolved : Bool
  /-- History: how often the future has been polled and cancelled. -/
  polls : Nat
  cancels : Nat
  deriving DecidableEq, Repr

namespace FutureAwaitable

/-- `await_ready()` without budget does not poll the future. With budget the future was
pending. -/
def awaitReady (cancellable budget : Bool) : FutureAwaitable where
  cancellable := cancellable
  deferred := !budget
  resolved := false
  polls := if budget then 1 else 0
  cancels := 0

def cancel (awaitable : FutureAwaitable) : FutureAwaitable :=
  if awaitable.cancellable then { awaitable with cancels := awaitable.cancels + 1 }
  else awaitable

/-- `poll()`, and whether it returns true. The future is pending or not when it is
polled. -/
def poll (awaitable : FutureAwaitable) (budget pending : Bool) : FutureAwaitable × Bool :=
  if awaitable.deferred && !budget then (awaitable, false)
  else
    ({ awaitable with
      deferred := false
      resolved := !pending
      polls := awaitable.polls + 1 }, !pending)

end FutureAwaitable

def Phase.isDestroying : Phase → Bool
  | .destroying _ => true
  | _ => false

structure Awaiting (Child : Type) where
  coro : CoroState Child
  /-- The awaitable of the last suspension at a `co_await`. -/
  awaitable : Option FutureAwaitable
  /-- History: the calls of `m_handle.destroy()`. -/
  destructions : Nat
  /-- History: the children that were registered in the scope. -/
  registered : List Child
  /-- History: what the polls of the cancelled coroutine have returned. -/
  answers : List Outcome

inductive AwaitingMove (Child : Type)
  | poll
  | await (cancellable budget : Bool)
  | repoll (budget pending : Bool)
  | other (move : Move Child)
  deriving DecidableEq, Repr

def Move.pollsNothing : Move Child → Bool
  | .poll | .await _ | .repollReturns _ => false
  | _ => true

/-- What a poll of a cancelled coroutine has returned in this state. -/
def CoroState.answer (state : CoroState Child) : List Outcome :=
  match state.cancelled, state.phase with
  | true, .returned outcome => [outcome]
  | _, _ => []

namespace Awaiting

variable {Child : Type}

def record (state : Awaiting Child) (next : CoroState Child) (polling : Bool) :
    Awaiting Child where
  coro := next
  awaitable :=
    if next.phase = .cancelling ∧ state.coro.phase ≠ .cancelling then
      state.awaitable.map FutureAwaitable.cancel
    else state.awaitable
  destructions :=
    if next.phase.isDestroying ∧ ¬ state.coro.phase.isDestroying then state.destructions + 1
    else state.destructions
  registered := state.registered ++ next.pending.drop state.coro.pending.length
  answers := state.answers ++ if polling then next.answer else []

def step (kind : Kind) [DecidableEq Child] (state : Awaiting Child) :
    AwaitingMove Child → Option (Awaiting Child)
  | .poll => (state.coro.step kind .poll).map fun next => state.record next true
  | .await cancellable budget =>
    (state.coro.step kind (.await cancellable)).map fun next =>
      { state.record next true with
        awaitable := some (FutureAwaitable.awaitReady cancellable budget) }
  | .repoll budget pending =>
    match state.awaitable with
    | some awaitable =>
      let (polled, ready) := awaitable.poll budget pending
      (state.coro.step kind (.repollReturns ready)).map fun next =>
        { state.record next true with awaitable := some polled }
    | none => none
  | .other move =>
    if move.pollsNothing then
      (state.coro.step kind move).map fun next => state.record next !state.coro.phase.isIdle
    else none

def suspendedAt (state : Awaiting Child) : Option FutureAwaitable :=
  if state.coro.frame = .live ∧ state.coro.pollCurrent then state.awaitable else none

end Awaiting

def awaitingMachine [DecidableEq Child] (kind : Kind) (parameters : List (Parameter Child)) :
    Machine (Awaiting Child) (AwaitingMove Child) where
  initial := ⟨newCoro parameters, none, 0, [], []⟩
  step := Awaiting.step kind

end CoroRuntime.Coroutine
