import CoroRuntime.Foundation.Execution

/-! # A spawned stream

`StreamTaskImpl` in `include/coro/detail/task.h`, `StreamTaskState` and `StreamHandle`: a
background task polls a stream into a bounded queue, and a handle reads it. Each critical
section of the queue's mutex is one move, and so are each poll of the stream and each call of
a waker. What the stream answers is up to the run.
-/

namespace CoroRuntime.SpawnedStream

open Foundation

structure Config where
  /-- what `SpawnBuilder::buffer` was given -/
  capacity : Nat
  hasCancel : Bool

inductive StreamResult (T : Type u) (Error : Type v)
  | pending
  | item (item : T)
  | ended
  | error (error : Error)
  | dropped
  deriving DecidableEq, Repr

inductive Outcome (Error : Type v)
  | ended
  | failed (error : Error)
  | dropped
  deriving DecidableEq, Repr

inductive Phase (T : Type u) (Error : Type v) (Waker : Type w)
  | idle
  /-- before it looks at `m_cancelled` -/
  | checking
  /-- cancelled, and before a poll of the stream -/
  | draining
  /-- before the item that is left from the last poll is pushed -/
  | flushing
  /-- before a poll of the stream -/
  | streaming
  | pushing (item : T)
  /-- before the waker of the consumer is called, and then the stream is polled again -/
  | pushed (waker : Option Waker)
  | closing (exception : Option Error)
  /-- before the waker of the consumer is called, for the last time -/
  | closed (waker : Option Waker)
  /-- before the stream is destroyed -/
  | finishing
  | done
  /-- It has read the value of a result that has none. -/
  | undefined
  deriving DecidableEq, Repr

inductive Consumer (Waker : Type w)
  | ready
  /-- Pending, and whether the waker of that poll has been called since -/
  | pending (waker : Waker) (woken : Bool)
  deriving DecidableEq, Repr

structure State (T : Type u) (Error : Type v) (Waker : Type w) where
  buffer : List T := []
  closed : Bool := false
  terminated : Bool := false
  exception : Option Error := none
  producerWaker : Bool := false
  consumerWaker : Option Waker := none
  stream : Bool := true
  pending : Option T := none
  cancelled : Bool := false
  cancelRequested : Bool := false
  phase : Phase T Error Waker := .idle
  /-- The task has been woken since its last poll began. -/
  notified : Bool := true
  handle : Bool := true
  consumer : Consumer Waker := .ready
  /-- The handle has taken the producer's waker out and is to call it. -/
  wakesProducer : Bool := false
  /-- Somebody has set `m_cancelled` and is to wake the task. -/
  wakesCancelled : Bool := false
  /-- History: the items of the stream. -/
  yielded : List T := []
  /-- History: the items that the handle has returned. -/
  returned : List T := []
  /-- History: the end of the stream. -/
  outcome : Option (Outcome Error) := none
  /-- History: how often the stream was cancelled. -/
  cancels : Nat := 0
  /-- History: the task has found `m_cancelled` set. -/
  seen : Bool := false

inductive NextResult (T : Type u) (Error : Type v)
  | pending
  | item (item : T)
  | ended
  | error (error : Error)
  deriving DecidableEq, Repr

inductive Move (T : Type u) (Error : Type v) (Waker : Type w)
  -- the background task
  | poll
  | check
  | flush
  | stream (result : StreamResult T Error)
  | push
  | wakeConsumer
  | close
  | finish
  /-- a wake of the task that has nothing to do with the queue -/
  | notify
  -- the handle, and whoever cancels
  | next (waker : Waker)
  | wakeProducer
  | cancel
  | wakeCancelled
  | drop
  deriving DecidableEq, Repr

namespace State

variable {T : Type u} {Error : Type v} {Waker : Type w}

/-- The beginning of `poll`, after the test for a finished task. -/
def check (config : Config) (state : State T Error Waker) : State T Error Waker :=
  if state.cancelled then
    if config.hasCancel then
      if state.cancelRequested then { state with phase := .draining, seen := true }
      else
        { state with
          phase := .draining
          seen := true
          pending := none
          cancelRequested := true
          cancels := state.cancels + 1 }
    else { state with phase := .closing none, seen := true }
  else if state.pending.isSome then { state with phase := .flushing }
  else { state with phase := .streaming }

def push (config : Config) (item : T) (state : State T Error Waker) : State T Error Waker :=
  if state.buffer.length < config.capacity then
    { state with
      buffer := state.buffer ++ [item]
      pending := none
      consumerWaker := none
      phase := .pushed state.consumerWaker }
  else { state with pending := some item, producerWaker := true, phase := .idle }

def finishStream (outcome : Outcome Error) (exception : Option Error)
    (state : State T Error Waker) : State T Error Waker :=
  { state with outcome := some outcome, phase := .closing exception }

def produce (state : State T Error Waker) : StreamResult T Error → State T Error Waker
  | .pending => { state with phase := .idle }
  | .item item => { state with yielded := state.yielded ++ [item], phase := .pushing item }
  | .ended => state.finishStream .ended none
  | .error error => state.finishStream (.failed error) (some error)
  -- `poll` has no test for Dropped here and goes on to `value()`, which is undefined
  | .dropped => { state with outcome := some .dropped, phase := .undefined }

def drain (state : State T Error Waker) : StreamResult T Error → State T Error Waker
  | .pending => { state with phase := .idle }
  | .item item => { state with yielded := state.yielded ++ [item] }
  | .ended => state.finishStream .ended none
  | .error error => state.finishStream (.failed error) none
  | .dropped => state.finishStream .dropped none

def next (waker : Waker) (state : State T Error Waker) : NextResult T Error × State T Error Waker :=
  match state.buffer with
  | item :: rest =>
    (.item item, { state with
      buffer := rest
      producerWaker := false
      wakesProducer := state.producerWaker
      consumer := .ready
      returned := state.returned ++ [item] })
  | [] =>
    if state.closed then
      (match state.exception with
        | some error => .error error
        | none => .ended, { state with consumer := .ready })
    else
      (.pending, { state with consumerWaker := some waker, consumer := .pending waker false })

variable [DecidableEq Waker]

def call (called : Option Waker) (state : State T Error Waker) : State T Error Waker :=
  match state.consumer with
  | .pending waker woken =>
    { state with consumer := .pending waker (woken || called = some waker) }
  | .ready => state

end State

variable {T : Type u} {Error : Type v} {Waker : Type w} [DecidableEq Waker]

def step (config : Config) (state : State T Error Waker) :
    Move T Error Waker → Option (State T Error Waker)
  | .poll =>
    if state.notified then
      match state.phase with
      | .idle => some { state with notified := false, phase := .checking }
      | .done => some { state with notified := false }
      | _ => none
    else none
  | .check =>
    match state.phase with
    | .checking => some (state.check config)
    | _ => none
  | .flush =>
    match state.phase, state.pending with
    | .flushing, some item => some (state.push config item)
    | _, _ => none
  | .stream result =>
    match state.phase with
    | .streaming => some (state.produce result)
    | .draining => some (state.drain result)
    | _ => none
  | .push =>
    match state.phase with
    | .pushing item => some (state.push config item)
    | _ => none
  | .wakeConsumer =>
    match state.phase with
    | .pushed waker => some { state.call waker with phase := .streaming }
    | .closed waker => some { state.call waker with phase := .finishing }
    | _ => none
  | .close =>
    match state.phase with
    | .closing exception => some { state with
        closed := true
        exception
        consumerWaker := none
        phase := .closed state.consumerWaker }
    | _ => none
  | .finish =>
    match state.phase with
    | .finishing => some { state with
        stream := false
        pending := none
        terminated := true
        phase := .done }
    | _ => none
  | .notify => some { state with notified := true }
  | .next waker =>
    if state.handle ∧ state.wakesProducer = false then some (state.next waker).2 else none
  | .wakeProducer =>
    if state.wakesProducer then some { state with notified := true, wakesProducer := false }
    else none
  | .cancel => some { state with cancelled := true, wakesCancelled := true }
  | .wakeCancelled =>
    if state.wakesCancelled then some { state with notified := true, wakesCancelled := false }
    else none
  | .drop =>
    if state.handle ∧ state.wakesProducer = false then
      some { state with
        handle := false
        cancelled := true
        wakesCancelled := true
        consumer := .ready }
    else none

def streamMachine (T : Type u) (Error : Type v) (Waker : Type w) [DecidableEq Waker]
    (config : Config) : Machine (State T Error Waker) (Move T Error Waker) where
  initial := {}
  step := step config

end CoroRuntime.SpawnedStream
