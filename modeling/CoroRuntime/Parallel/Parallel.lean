import CoroRuntime.JoinSet.ExactlyOnce

/-! # `parallel()`

`ParallelFuture` of `include/coro/task/parallel.h`: a `JoinSet` of its own that the first poll
spawns the parts into, and the `drain()` future that it then polls. The moves of the set and of
its drain are those of the join set.
-/

namespace CoroRuntime.Parallel

open Foundation JoinSet

/-- The exceptions that `parallel_error_ranks_last()` tells apart. -/
inductive PartError (Exception : Type)
  | teamBroken
  | teamRoundBroken
  | joinCancelled
  | other (exception : Exception)
  deriving DecidableEq, Repr

variable {Exception : Type}

def parallelErrorRanksLast : Failure (PartError Exception) → Bool
  | .exception (.other _) => false
  | .exception .teamBroken | .exception .teamRoundBroken | .exception .joinCancelled => true
  | .joinCancelled => true

/-- The set of the parts, which are named by their numbers. Its only consumer is the drain. -/
abbrev PartSet (Exception : Type) := JoinSetState Nat Unit Unit Unit (PartError Exception)

abbrev SetMove (Exception : Type) := JoinSet.Move Nat Unit Unit Unit (PartError Exception)

abbrev Drain (Exception : Type) := Operation Nat Unit Unit (PartError Exception)

inductive Result (Exception : Type)
  | ready
  | error (failure : Failure (PartError Exception))
  | dropped
  deriving DecidableEq, Repr

inductive Phase (Exception : Type)
  | unpolled
  /-- in the loop of `start()`, before the next part -/
  | starting (part : Nat)
  | draining
  | finished (result : Result Exception)
  deriving DecidableEq, Repr

inductive Start (Exception : Type)
  | spawned
  /-- `make_team()`, `fn` or `spawn()` throws, before the part is in the set -/
  | throws (exception : PartError Exception)
  /-- `schedule_task()` throws after `spawn()` has linked the part into the set -/
  | throwsLinked (exception : PartError Exception)
  deriving DecidableEq, Repr

structure ParallelFuture (Exception : Type) where
  set : PartSet Exception := newJoinSet Nat Unit Unit Unit (PartError Exception)
  phase : Phase Exception := .unpolled
  cancelRequested : Bool := false
  spawnError : Option (PartError Exception) := none
  /-- the parts whose `spawn()` has returned -/
  started : Nat := 0
  /-- a node of the set was read after its task had been freed -/
  fault : Bool := false
  /-- `cancel()` was called before the future completed -/
  cancelledInTime : Bool := false

inductive Move (Exception : Type)
  | cancel
  | poll
  | start (outcome : Start Exception)
  | enter
  | sweep
  | take
  | settle
  | check
  | finishPart (part : Nat) (outcome : Outcome Unit (PartError Exception))
  | completePart (part : Nat)
  | cancelPart (part : Nat)
  | wake (waker : Unit × Nat)

namespace ParallelFuture

variable (future : ParallelFuture Exception)

def drain : Request Unit Unit (PartError Exception) :=
  .drain (some parallelErrorRanksLast) .cancel

def onSet (move : SetMove Exception)
    (future : ParallelFuture Exception) : Option (ParallelFuture Exception) :=
  (future.set.step move).map fun set => { future with set }

def firstPoll : ParallelFuture Exception :=
  if future.cancelRequested then { future with phase := .finished .dropped }
  else
    { future with
      set := future.set.setConsumer () drain.operation
      phase := .starting 0 }

def enterDrain : Option (ParallelFuture Exception) :=
  { future with phase := .draining }.onSet (.poll ())

def startPart (k part : Nat) (future : ParallelFuture Exception) :
    Start Exception → Option (ParallelFuture Exception)
  | .spawned =>
    if part < k then
      { future with phase := .starting (part + 1), started := part + 1 }.onSet (.spawn part ())
    else none
  | .throws exception =>
    if part < k then
      { future with spawnError := some exception, set := future.set.cancelAll }.enterDrain
    else none
  | .throwsLinked exception =>
    -- the task is destroyed on the way out, and `cancel_all()` finds its node
    if part < k then some { future with spawnError := some exception, fault := true } else none

def resultOf (spawnError : Option (PartError Exception)) :
    Answer Unit Unit (PartError Exception) → Result Exception
  | .dropped => .dropped
  | .error failure => (spawnError.map fun error => .error (.exception error)).getD (.error failure)
  | _ => (spawnError.map fun error => .error (.exception error)).getD .ready

/-- The drain's last critical section, and what the poll returns after it -/
def afterCheck : ParallelFuture Exception :=
  match future.set.consumer () with
  | none => future
  | some operation =>
    match operation.phase with
    | .ready answer => { future with phase := .finished (resultOf future.spawnError answer) }
    | _ => future

def cancel : Option (ParallelFuture Exception) :=
  match future.phase with
  | .starting _ => none
  | .unpolled => some { future with cancelRequested := true, cancelledInTime := true }
  | .draining =>
    { future with cancelRequested := true, cancelledInTime := true }.onSet (.cancel ())
  | .finished _ =>
    if (future.set.consumer ()).isSome then
      { future with cancelRequested := true }.onSet (.cancel ())
    else some { future with cancelRequested := true }

def drainMove (move : SetMove Exception)
    (future : ParallelFuture Exception) : Option (ParallelFuture Exception) :=
  match future.phase with
  | .draining => future.onSet move
  | _ => none

def poll : Option (ParallelFuture Exception) :=
  match future.phase with
  | .unpolled => some future.firstPoll
  | .draining => future.onSet (.poll ())
  | _ => none

def start (k : Nat) (outcome : Start Exception) (future : ParallelFuture Exception) :
    Option (ParallelFuture Exception) :=
  match future.phase with
  | .starting part => future.startPart k part outcome
  | _ => none

def enter (k : Nat) (future : ParallelFuture Exception) : Option (ParallelFuture Exception) :=
  match future.phase with
  | .starting part => if part = k then future.enterDrain else none
  | _ => none

def act (k : Nat) (future : ParallelFuture Exception) :
    Move Exception → Option (ParallelFuture Exception)
  | .cancel => future.cancel
  | .poll => future.poll
  | .start outcome => future.start k outcome
  | .enter => future.enter k
  | .sweep => future.drainMove (.sweep ())
  | .take => future.drainMove (.take ())
  | .settle => future.drainMove (.settle ())
  | .check => (future.drainMove (.check ())).map afterCheck
  | .finishPart part outcome => future.onSet (.finish part outcome)
  | .completePart part => future.onSet (.complete part)
  | .cancelPart part => future.onSet (.cancelTask part)
  | .wake waker => future.onSet (.wake waker)

/-- Nothing is known of what follows a fault. -/
def step (k : Nat) (future : ParallelFuture Exception) (move : Move Exception) :
    Option (ParallelFuture Exception) :=
  if future.fault then none else future.act k move

end ParallelFuture

def machine (k : Nat) : Machine (ParallelFuture Exception) (Move Exception) where
  initial := {}
  step := ParallelFuture.step k

def schedules (_ : ParallelFuture Exception) : Move Exception → Prop
  | .start (.throwsLinked _) => False
  | _ => True

instance (future : ParallelFuture Exception) (move : Move Exception) :
    Decidable (schedules future move) :=
  match move with
  | .start (.throwsLinked _) => isFalse id
  | .start .spawned | .start (.throws _) | .cancel | .poll | .enter | .sweep | .take | .settle
  | .check | .finishPart .. | .completePart _ | .cancelPart _ | .wake _ => isTrue trivial

end CoroRuntime.Parallel
