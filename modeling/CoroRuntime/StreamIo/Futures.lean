import CoroRuntime.Foundation.Execution

/-! # The read and write futures of a byte stream

`FdReadFuture` and `FdWriteFuture` in `include/coro/detail/stream_io.h`, over the readiness
handshake of `include/coro/runtime/io_driver.h` and `src/runtime/io_driver.cpp`. Every critical
section of a registration's mutex is one move, and so is every attempt of the non-blocking
operation, which is made without it. The registration is edge-triggered.
-/

namespace CoroRuntime.StreamIo

open Foundation

inductive IoDirection
  | read
  | write
  deriving DecidableEq, Repr

structure IoReadyEvent where
  direction : IoDirection
  tick : UInt64
  shutdown : Bool := false
  deriving DecidableEq, Repr

inductive Errno
  /-- what `would_block()` recognises -/
  | wouldBlock
  | driverShutDown
  | other (code : Int)
  deriving DecidableEq, Repr

abbrev IoResult := Except Errno Nat

structure Event where
  readable : Bool := false
  writable : Bool := false
  error : Bool := false
  hup : Bool := false
  deriving DecidableEq, Repr

structure ScheduledIo (Waker : Type) where
  readable : Bool := true
  writable : Bool := true
  tick : UInt64 := 0
  reader : Option Waker := none
  writer : Option Waker := none
  shutdown : Bool := false
  deriving DecidableEq, Repr

namespace ScheduledIo

variable (io : ScheduledIo Waker)

def ready : IoDirection → Bool
  | .read => io.readable
  | .write => io.writable

def slot : IoDirection → Option Waker
  | .read => io.reader
  | .write => io.writer

def store (waker : Waker) : IoDirection → ScheduledIo Waker
  | .read => { io with reader := some waker }
  | .write => { io with writer := some waker }

/-- `poll_ready()`; the waker is the one of the context. -/
def pollReady (direction : IoDirection) (waker : Waker) :
    Option IoReadyEvent × ScheduledIo Waker :=
  if io.shutdown then
    (some { direction, tick := io.tick, shutdown := true }, io)
  else if io.ready direction then
    (some { direction, tick := io.tick }, io)
  else
    (none, io.store waker direction)

def clearReady (event : IoReadyEvent) : ScheduledIo Waker :=
  if io.tick ≠ event.tick then
    io
  else
    match event.direction with
    | .read => { io with readable := false }
    | .write => { io with writable := false }

def dispatch (event : Event) : ScheduledIo Waker :=
  let readable := event.readable || event.error || event.hup
  let writable := event.writable || event.error || event.hup
  { io with
    readable := io.readable || readable
    reader := if readable then none else io.reader
    writable := io.writable || writable
    writer := if writable then none else io.writer
    tick := io.tick + 1 }

def shutDown : ScheduledIo Waker :=
  { io with shutdown := true, reader := none, writer := none }

theorem slot_store : (io.store waker direction).slot direction = some waker := by
  cases direction <;> rfl

end ScheduledIo

/-! ## The handshake -/

inductive Stage
  | pollReady
  | op (event : IoReadyEvent)
  | clearReady (event : IoReadyEvent)
  deriving DecidableEq, Repr

inductive Outcome
  | inside (stage : Stage)
  | pending
  | returned (result : IoResult)
  deriving Repr

/-- A move of `poll_io()`; `attempt` is what the operation returns if the move is its call. -/
def pollIo (io : ScheduledIo Waker) (direction : IoDirection) (waker : Waker) (attempt : IoResult) :
    Stage → ScheduledIo Waker × Outcome
  | .pollReady =>
    match io.pollReady direction waker with
    | (none, io) => (io, .pending)
    | (some event, io) =>
      if event.shutdown then (io, .returned (.error .driverShutDown)) else (io, .inside (.op event))
  | .op event =>
    match attempt with
    | .error .wouldBlock => (io, .inside (.clearReady event))
    | result => (io, .returned result)
  | .clearReady event => (io.clearReady event, .inside .pollReady)

/-! ## The futures -/

inductive PollResult
  | ready
  | error (errno : Errno)
  deriving DecidableEq, Repr

/-- What the two futures have in common. `count` is `m_filled` or `m_written`, `call` where a
call of `poll()` stands and with which waker, `result` how the future completed. -/
structure FdFuture (Waker : Type) where
  buf : List UInt8
  count : Nat := 0
  call : Option (Waker × Stage) := none
  result : Option PollResult := none
  /-- History: the bytes that were transferred. -/
  moved : List UInt8 := []
  deriving Repr

namespace FdFuture

variable (future : FdFuture Waker)

def finish (result : PollResult) : FdFuture Waker :=
  { future with call := none, result := some result }

def loop (waker : Waker) : FdFuture Waker :=
  if future.count < future.buf.length then
    { future with call := some (waker, .pollReady) }
  else
    future.finish .ready

end FdFuture

def FdReadFuture.output (future : FdFuture Waker) : Nat × List UInt8 :=
  (future.count, future.buf)

/-- `FdReadFuture::poll()` after `try_read()` has written `chunk` to the rest of the buffer. -/
def FdReadFuture.received (exact : Bool) (future : FdFuture Waker) (waker : Waker)
    (chunk : List UInt8) : FdFuture Waker :=
  if chunk.length = 0 then
    future.finish .ready
  else
    let filled := { future with
      buf := future.buf.take future.count ++ chunk ++ future.buf.drop (future.count + chunk.length)
      count := future.count + chunk.length
      moved := future.moved ++ chunk }
    if exact then filled.loop waker else filled.finish .ready

def FdWriteFuture.accepted (future : FdFuture Waker) (waker : Waker) (chunk : List UInt8) :
    FdFuture Waker :=
  FdFuture.loop { future with
    count := future.count + chunk.length
    moved := future.moved ++ chunk } waker

/-! ## The stream -/

structure Stream (Waker : Type) where
  io : ScheduledIo Waker
  future : IoDirection → FdFuture Waker
  /-- What has arrived since the read future was made. -/
  arrived : List UInt8
  /-- Nothing arrives any more. -/
  ended : Bool := false

inductive Move (Waker : Type)
  | arrive (bytes : List UInt8)
  | close
  | dispatch (event : Event)
  | shutDown
  | poll (direction : IoDirection) (waker : Waker)
  | advance (direction : IoDirection) (attempt : IoResult)
  deriving Repr

namespace Stream

variable (stream : Stream Waker)

def left : IoDirection → List UInt8
  | .read => stream.arrived.drop (stream.future .read).moved.length
  | .write => (stream.future .write).buf.drop (stream.future .write).count

def resume (exact : Bool) (direction : IoDirection) (waker : Waker) : Outcome → FdFuture Waker
  | .inside stage => { stream.future direction with call := some (waker, stage) }
  | .pending => { stream.future direction with call := none }
  | .returned (.error errno) => (stream.future direction).finish (.error errno)
  | .returned (.ok count) =>
    let chunk := (stream.left direction).take count
    match direction with
    | .read => FdReadFuture.received exact (stream.future .read) waker chunk
    | .write => FdWriteFuture.accepted (stream.future .write) waker chunk

def step (exact : Bool) : Move Waker → Option (Stream Waker)
  | .arrive bytes => some { stream with arrived := stream.arrived ++ bytes }
  | .close => some { stream with ended := true }
  | .dispatch event => some { stream with io := stream.io.dispatch event }
  | .shutDown => some { stream with io := stream.io.shutDown }
  | .poll direction waker =>
    some { stream with
      future := Function.update stream.future direction ((stream.future direction).loop waker) }
  | .advance direction attempt =>
    (stream.future direction).call.map fun (waker, stage) =>
      let (io, outcome) := pollIo stream.io direction waker attempt stage
      { stream with
        io
        future :=
          Function.update stream.future direction (stream.resume exact direction waker outcome) }

end Stream

def streamMachine (exact : Bool) (initial : Stream Waker) :
    Machine (Stream Waker) (Move Waker) where
  initial
  step stream move := stream.step exact move

def Stream.fresh (io : ScheduledIo Waker) (buf : IoDirection → List UInt8) (arrived : List UInt8)
    (ended : Bool) : Stream Waker :=
  { io, future := fun direction => { buf := buf direction }, arrived, ended }

/-- A future is polled again only after it was pending. An operation that succeeds transfers
at least one byte and no more than requested, unless it reads at the end of the stream. -/
def withinContract (stream : Stream Waker) : Move Waker → Prop
  | .arrive _ => stream.ended = false
  | .poll direction _ =>
    (stream.future direction).call.isNone ∧ (stream.future direction).result.isNone
  | .advance direction (.ok count) =>
    count ≤ (stream.future direction).buf.length - (stream.future direction).count ∧
      count ≤ (stream.left direction).length ∧
      (count = 0 → direction = .read ∧ stream.ended ∧ stream.left .read = [])
  | _ => True

instance (stream : Stream Waker) : (move : Move Waker) → Decidable (withinContract stream move)
  | .arrive _ => inferInstanceAs (Decidable (_ = _))
  | .poll _ _ => inferInstanceAs (Decidable (_ ∧ _))
  | .advance _ (.ok count) => inferInstanceAs (Decidable (_ ∧ _ ∧ (count = 0 → _)))
  | .advance _ (.error _) | .close | .dispatch _ | .shutDown => isTrue trivial

end CoroRuntime.StreamIo
