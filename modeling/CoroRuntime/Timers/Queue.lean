import CoroRuntime.Foundation.Execution
import CoroRuntime.Foundation.HeapOrder
import Mathlib.Algebra.GroupWithZero.Nat

/-! # The timer queue

`include/coro/detail/timer_queue.h` and `src/detail/timer_queue.cpp`: a heap of deadlines,
the slots that its entries name, and the record of a thread that waits for the earliest
deadline. Each critical section is one step. Instants and waits are in nanoseconds.
-/

namespace CoroRuntime.Timers

open Foundation
open Function (update)

/-- `TimerId`: a slot and a generation of it, packed into 64 bits by the code. -/
structure TimerId where
  index : Nat
  generation : BitVec 32
  deriving DecidableEq, Repr

structure Entry where
  deadline : Int
  /-- insertion order: equal deadlines fire first in, first out -/
  seq : Nat
  slot : Nat
  deriving DecidableEq, Repr

/-- `later(second, first)` -/
def Entry.before (first second : Entry) : Prop :=
  first.deadline < second.deadline ∨
    first.deadline = second.deadline ∧ first.seq < second.seq

instance : DecidableRel Entry.before := fun first second =>
  inferInstanceAs (Decidable (first.deadline < second.deadline ∨
    first.deadline = second.deadline ∧ first.seq < second.seq))

structure Slot (Waker : Type u) where
  waker : Option Waker := none
  /-- How often the slot has been freed; the code keeps the low 32 bits. -/
  freed : Nat := 0
  cancelled : Bool := false

def Slot.generation {Waker : Type u} (slot : Slot Waker) : BitVec 32 := BitVec.ofNat 32 slot.freed

def sweepMinCancelled : Nat := 64

def batchSize : Nat := 32

structure Inserted where
  id : TimerId
  unpark : Bool
  closed : Bool := false

structure Timer (Waker : Type u) where
  deadline : Int
  seq : Nat
  waker : Option Waker
  deriving DecidableEq, Repr

structure Queue (Waker : Type u) where
  heap : List Entry := []
  slots : Nat → Slot Waker := fun _ => {}
  slotCount : Nat := 0
  /-- the back of the vector first -/
  freeSlots : List Nat := []
  nextSeq : Nat := 0
  cancelled : Nat := 0
  waiting : Bool := false
  closed : Bool := false

namespace Queue

variable {Waker : Type u}

def takeSlot (queue : Queue Waker) : Nat × Queue Waker :=
  match queue.freeSlots with
  | index :: rest => (index, { queue with freeSlots := rest })
  | [] =>
    (queue.slotCount, { queue with
      slotCount := queue.slotCount + 1
      slots := update queue.slots queue.slotCount {} })

def freeSlot (index : Nat) (queue : Queue Waker) : Queue Waker :=
  { queue with
    slots := update queue.slots index { freed := (queue.slots index).freed + 1 }
    freeSlots := index :: queue.freeSlots }

variable (library : HeapLibrary Entry Entry.before)

def insert (deadline : Int) (waker : Option Waker) (queue : Queue Waker) :
    Inserted × Queue Waker :=
  if queue.closed then (⟨⟨0, 0⟩, false, true⟩, queue)
  else
    let earliest := queue.heap.head?.all fun front => deadline < front.deadline
    let taken := queue.takeSlot
    let index := taken.1
    let slot := taken.2.slots index
    (⟨⟨index, slot.generation⟩, queue.waiting && earliest, false⟩,
      { taken.2 with
        slots := update taken.2.slots index { slot with waker }
        heap := library.push (queue.heap ++ [⟨deadline, queue.nextSeq, index⟩])
        nextSeq := queue.nextSeq + 1 })

/-- The loop of `erase_if` in `sweep`: what it keeps, and the slots that it has freed -/
def sweepEntries : List Entry → Queue Waker → List Entry × Queue Waker
  | [], queue => ([], queue)
  | entry :: rest, queue =>
    if (queue.slots entry.slot).cancelled then sweepEntries rest (queue.freeSlot entry.slot)
    else
      let swept := sweepEntries rest queue
      (entry :: swept.1, swept.2)

def sweep (queue : Queue Waker) : Queue Waker :=
  let swept := queue.sweepEntries queue.heap
  { swept.2 with heap := library.make swept.1, cancelled := 0 }

def cancel (id : TimerId) (queue : Queue Waker) : Queue Waker :=
  if queue.slotCount ≤ id.index then queue
  else
    let slot := queue.slots id.index
    if slot.generation ≠ id.generation ∨ slot.cancelled then queue
    else
      let queue := { queue with
        slots := update queue.slots id.index
          { slot with waker := none, cancelled := true }
        cancelled := queue.cancelled + 1 }
      if sweepMinCancelled ≤ queue.cancelled ∧ queue.heap.length - queue.cancelled < queue.cancelled
      then queue.sweep library
      else queue

def beginWait (now : Int) (maxWait : Option Int) (queue : Queue Waker) :
    Option Int × Queue Waker :=
  if maxWait.any (· ≤ 0) then (some 0, queue)
  else
    let wait := match queue.heap with
      | [] => maxWait
      | front :: _ =>
        let remaining := if front.deadline ≤ now then 0 else front.deadline - now
        if maxWait.all (remaining < ·) then some remaining else maxWait
    (wait, { queue with waiting := wait.all (0 < ·) })

def endWait (queue : Queue Waker) : Queue Waker := { queue with waiting := false }

def popFront (queue : Queue Waker) : Option (Entry × Queue Waker) :=
  let heap := library.pop queue.heap
  heap.getLast?.map fun entry => (entry, { queue with heap := heap.dropLast })

def timer (queue : Queue Waker) (entry : Entry) : Timer Waker :=
  ⟨entry.deadline, entry.seq, (queue.slots entry.slot).waker⟩

/-- Whether `slot.waker.lock()` gives a waker; `alive` says which ones are still there. -/
def locks (alive : Waker → Bool) (timer : Timer Waker) : Bool := timer.waker.any alive

/-- The loop in a critical section of `fire_expired`, with room for this many more wakers:
the timers to be woken, and whether there are more -/
def expire (alive : Waker → Bool) (now : Int) :
    Nat → Nat → Queue Waker → List (Timer Waker) × Bool × Queue Waker
  | 0, _, queue => ([], false, queue)
  | fuel + 1, room, queue =>
    if queue.heap.head?.all fun front => now < front.deadline then ([], false, queue)
    else if room = 0 then ([], true, queue)
    else match queue.popFront library with
      | none => ([], false, queue)
      | some (entry, popped) =>
        if (queue.slots entry.slot).cancelled then
          expire alive now fuel room
            ({ popped with cancelled := queue.cancelled - 1 }.freeSlot entry.slot)
        else if locks alive (queue.timer entry) then
          let fired := expire alive now fuel (room - 1) (popped.freeSlot entry.slot)
          (queue.timer entry :: fired.1, fired.2)
        else expire alive now fuel room (popped.freeSlot entry.slot)

def fireSection (alive : Waker → Bool) (now : Int) (endWait : Bool) (queue : Queue Waker) :
    List (Timer Waker) × Bool × Queue Waker :=
  let queue := if endWait then queue.endWait else queue
  queue.expire library alive now queue.heap.length batchSize

def closeEntries (alive : Waker → Bool) :
    List Entry → Queue Waker → List (Timer Waker) × Queue Waker
  | [], queue => ([], queue)
  | entry :: rest, queue =>
    let closed := closeEntries alive rest (queue.freeSlot entry.slot)
    if (queue.slots entry.slot).cancelled = false ∧ locks alive (queue.timer entry) then
      (queue.timer entry :: closed.1, closed.2)
    else closed

def closeAndWakeAll (alive : Waker → Bool) (queue : Queue Waker) :
    List (Timer Waker) × Queue Waker :=
  let closed := { queue with closed := true }.closeEntries alive queue.heap
  (closed.1, { closed.2 with heap := [], cancelled := 0 })

end Queue

/-! ## The machine -/

/-- One thread waits for deadlines; the others may fire what has expired as well. -/
inductive Party
  | waiter
  | caller (index : Nat)
  deriving DecidableEq, Repr

inductive Firing (Waker : Type u)
  | idle
  | locking
  /-- outside the lock: the timers still to be woken, and whether a section follows -/
  | waking (rest : List (Timer Waker)) (more : Bool)
  deriving DecidableEq, Repr

/-- An id that was issued: a slot, and how often it had been freed. -/
@[ext]
structure Ref where
  index : Nat
  freed : Nat
  deriving DecidableEq, Repr

def Ref.id (ref : Ref) : TimerId := ⟨ref.index, BitVec.ofNat 32 ref.freed⟩

/-- A wait between `begin_wait` and `end_wait`, and whether an insert has asked for an
unpark since. -/
structure Wait where
  start : Int
  bound : Option Int
  unparked : Bool := false
  deriving DecidableEq, Repr

inductive Event (Waker : Type u)
  | inserted (ref : Ref) (timer : Timer Waker)
  | rejected
  | cancelled (ref : Ref)
  | ticked (now : Int)
  | dropped (waker : Waker)
  /-- a critical section of `fire_expired` -/
  | fired (party : Party) (woken : List (Timer Waker)) (more : Bool)
  | closed (party : Party) (woken : List (Timer Waker))
  | woke (party : Party) (timer : Timer Waker)
  deriving DecidableEq, Repr

structure State (Waker : Type u) where
  queue : Queue Waker := {}
  clock : Int := 0
  alive : Waker → Bool := fun _ => true
  firing : Party → Firing Waker := fun _ => .idle
  -- what has happened so far
  waiter : Option Wait := none
  issued : List Ref := []
  /-- the latest event first -/
  history : List (Event Waker) := []

inductive Action (Waker : Type u)
  | insert (deadline : Int) (waker : Option Waker)
  | cancel (ref : Ref)
  | tick (now : Int)
  /-- the last strong reference to a waker goes -/
  | drop (waker : Waker)
  | beginWait (maxWait : Option Int)
  | endWait
  /-- the call of `fire_expired`, and by the waiter of `end_wait_and_fire_expired` -/
  | fire (party : Party)
  | fireSection (party : Party)
  | close (party : Party)
  | wake (party : Party)
  /-- the end of the loop around a critical section -/
  | loop (party : Party)
  deriving DecidableEq, Repr

section Steps

variable {Waker : Type u} [DecidableEq Waker] (library : HeapLibrary Entry Entry.before)

def State.insert (deadline : Int) (waker : Option Waker) (state : State Waker) : State Waker :=
  let result := state.queue.insert library deadline waker
  let index := result.1.id.index
  let ref : Ref := if result.1.closed then ⟨0, 0⟩ else ⟨index, (result.2.slots index).freed⟩
  { state with
    queue := result.2
    waiter := state.waiter.map fun wait =>
      { wait with unparked := wait.unparked || result.1.unpark }
    issued := ref :: state.issued
    history :=
      (if result.1.closed then .rejected
        else .inserted ref ⟨deadline, state.queue.nextSeq, waker⟩) :: state.history }

def State.beginWait (maxWait : Option Int) (state : State Waker) : State Waker :=
  let result := state.queue.beginWait state.clock maxWait
  { state with
    queue := result.2
    waiter :=
      if result.1.all (0 < ·) then some { start := state.clock, bound := result.1 } else none }

def State.fireSection (party : Party) (state : State Waker) : State Waker :=
  let result := state.queue.fireSection library state.alive state.clock (party = .waiter)
  { state with
    queue := result.2.2
    waiter := if party = .waiter then none else state.waiter
    firing := update state.firing party (.waking result.1 result.2.1)
    history := .fired party result.1 result.2.1 :: state.history }

def State.close (party : Party) (state : State Waker) : State Waker :=
  let result := state.queue.closeAndWakeAll state.alive
  { state with
    queue := result.2
    firing := update state.firing party (.waking result.1 false)
    history := .closed party result.1 :: state.history }

def step (state : State Waker) : Action Waker → Option (State Waker)
  | .insert deadline waker => some (state.insert library deadline waker)
  | .cancel ref =>
    if ref ∈ state.issued then some { state with
      queue := state.queue.cancel library ref.id
      history := .cancelled ref :: state.history }
    else none
  | .tick now =>
    if state.clock ≤ now then some { state with
      clock := now
      history := .ticked now :: state.history }
    else none
  | .drop waker => some { state with
      alive := update state.alive waker false
      history := .dropped waker :: state.history }
  | .beginWait maxWait =>
    if state.waiter = none ∧ state.firing .waiter = .idle then some (state.beginWait maxWait)
    else none
  | .endWait =>
    if state.firing .waiter = .idle then some { state with
      queue := state.queue.endWait
      waiter := none }
    else none
  | .fire party =>
    if state.firing party = .idle then some { state with
      firing := update state.firing party .locking }
    else none
  | .fireSection party =>
    if state.firing party = .locking then some (state.fireSection library party) else none
  | .close party =>
    if state.firing party = .idle then some (state.close party) else none
  | .wake party =>
    match state.firing party with
    | .waking (timer :: rest) more => some { state with
        firing := update state.firing party (.waking rest more)
        history := .woke party timer :: state.history }
    | _ => none
  | .loop party =>
    match state.firing party with
    | .waking [] more => some { state with
        firing := update state.firing party (if more then .locking else .idle) }
    | _ => none

def machine : Machine (State Waker) (Action Waker) where
  initial := {}
  step := step library

def Action.cancels {Waker : Type u} : Action Waker → Option Ref
  | .cancel ref => some ref
  | _ => none

/-- No slot is reused 2^32 times while one of its ids is held. -/
def Sparing (state : State Waker) (action : Action Waker) : Prop :=
  action.cancels.all fun ref => (state.queue.slots ref.index).freed < ref.freed + 2 ^ 32

instance (state : State Waker) (action : Action Waker) : Decidable (Sparing state action) :=
  inferInstanceAs (Decidable (_ = true))

omit [DecidableEq Waker] in
theorem Sparing.cancel (sparing : Sparing state (.cancel ref)) :
    (state.queue.slots ref.index).freed < ref.freed + 2 ^ 32 := by
  have every := (Option.all_eq_true _ _).mp sparing
  exact of_decide_eq_true (every ref rfl)

end Steps

end CoroRuntime.Timers
