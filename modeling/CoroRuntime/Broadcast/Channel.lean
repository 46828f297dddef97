import CoroRuntime.Foundation.Execution
import CoroRuntime.Foundation.Ring

/-! # The broadcast channel

`BroadcastShared` with its senders, its receivers, active and inactive, and the futures
of `recv()` and `receivers_active()`. Each critical section of the mutex is one move, and
so is each call of a waker after it. Copying a value does not fail.
-/

namespace CoroRuntime.Broadcast

open Foundation

structure RingSlot (Value : Type) where
  value : Option Value
  remaining : Nat
  deriving DecidableEq, Repr

/-- What a receive finds. `nothing` is `Empty` of `try_recv()` and `Pending` of a
`recv()` future. -/
inductive Answer (Value : Type)
  | value (value : Value)
  | lagged (skipped : Nat)
  | closed
  | nothing
  deriving DecidableEq, Repr

/-- History: an answer, and how many sends and senders there were at that point. -/
structure Report (Value : Type) where
  answer : Answer Value
  sent : Nat
  senders : Nat
  deriving DecidableEq, Repr

structure ReceiverState (Value : Type) where
  /-- Neither dropped nor deactivated. -/
  active : Bool
  cursor : Nat
  /-- History: the first cursor, and the answers so far. -/
  start : Nat
  reports : List (Report Value)
  deriving DecidableEq, Repr

inductive Subject (Receiver : Type)
  | recv (receiver : Receiver)
  | receiversActive
  deriving DecidableEq, Repr

inductive Status
  | created
  /-- Pending, and whether the future has been woken since. -/
  | pending (woken : Bool)
  | ready
  deriving DecidableEq, Repr

structure FutureState (Receiver : Type) where
  subject : Subject Receiver
  waker : Bool
  /-- The wakers that were taken from the node and not yet called. -/
  inFlight : Nat
  status : Status
  deriving DecidableEq, Repr

structure BroadcastState (capacity : Nat) (Receiver Future Value : Type) where
  ring : Fin capacity → RingSlot Value
  nextSeq : Nat
  senderCount : Nat
  receiverCount : Nat
  receiverWaiters : List Future
  senderWaiters : List Future
  /-- The `InactiveBroadcastReceiver` handles. -/
  inactive : Nat
  receiver : Receiver → Option (ReceiverState Value)
  future : Future → Option (FutureState Receiver)
  /-- History: the receivers that were ever created. -/
  created : List Receiver
  /-- History: the values of the successful sends. -/
  log : List Value
  /-- History: an assert has failed. -/
  failed : Bool

inductive Move (Receiver Future Value : Type)
  | send (value : Value)
  | cloneSender
  | closeSender
  | subscribe (receiver : Receiver)
  | resubscribe (source receiver : Receiver)
  | newInactive
  | copyInactive
  | dropInactive
  | activate (receiver : Receiver)
  | deactivate (receiver : Receiver)
  | closeReceiver (receiver : Receiver)
  | tryRecv (receiver : Receiver)
  | recv (receiver : Receiver) (future : Future)
  | receiversActive (future : Future)
  | poll (future : Future)
  | drop (future : Future)
  /-- A waker taken from the node of the future is called. -/
  | wake (future : Future)
  deriving DecidableEq, Repr

namespace FutureState

variable {Receiver : Type}

/-- `if (node->waker) wakers.push_back(std::move(node->waker))`. -/
def takeWaker (state : FutureState Receiver) : FutureState Receiver :=
  if state.waker then { state with waker := false, inFlight := state.inFlight + 1 } else state

def awaken (state : FutureState Receiver) : FutureState Receiver :=
  { state with
    inFlight := state.inFlight - 1
    status := match state.status with
      | .pending _ => .pending true
      | status => status }

end FutureState

namespace BroadcastState

variable {capacity : Nat} [NeZero capacity] {Receiver Future Value : Type}
variable (state : BroadcastState capacity Receiver Future Value)

def oldestSeq : Nat :=
  if state.nextSeq > capacity then state.nextSeq - capacity else 0

def slotOf (seq : Nat) : RingSlot Value :=
  state.ring (slot capacity seq)

def setSlot (seq : Nat)
    (content : RingSlot Value) : BroadcastState capacity Receiver Future Value :=
  { state with ring := Function.update state.ring (slot capacity seq) content }

/-- One receiver less has to read the value at `seq`: the last one empties the slot. -/
def uncount (seq : Nat) : BroadcastState capacity Receiver Future Value :=
  let held := state.slotOf seq
  state.setSlot seq
    { value := if held.remaining - 1 = 0 then none else held.value
      remaining := held.remaining - 1 }

def require (condition : Bool) : BroadcastState capacity Receiver Future Value :=
  { state with failed := state.failed || !condition }

def take (seq : Nat) : Option Value × BroadcastState capacity Receiver Future Value :=
  let held := state.slotOf seq
  (held.value, (state.require (held.value.isSome && decide (0 < held.remaining))).uncount seq)

def release (seq : Nat) : BroadcastState capacity Receiver Future Value :=
  (state.require (decide (0 < (state.slotOf seq).remaining))).uncount seq

def removeReceiver (cursor : Nat) : BroadcastState capacity Receiver Future Value :=
  let first := max cursor state.oldestSeq
  let released := (List.range' first (state.nextSeq - first)).foldl release state
  { released with receiverCount := state.receiverCount - 1 }

section Wakers

variable [DecidableEq Future]
variable (state : BroadcastState capacity Receiver Future Value)

def takeWakers
    (waiters : List Future) : BroadcastState capacity Receiver Future Value :=
  { state with
    future := fun future =>
      if future ∈ waiters then (state.future future).map FutureState.takeWaker
      else state.future future }

def drainReceivers : BroadcastState capacity Receiver Future Value :=
  { state.takeWakers state.receiverWaiters with receiverWaiters := [] }

def drainSenders : BroadcastState capacity Receiver Future Value :=
  { state.takeWakers state.senderWaiters with senderWaiters := [] }

def send (value : Value) : BroadcastState capacity Receiver Future Value :=
  drainReceivers { state.setSlot state.nextSeq ⟨some value, state.receiverCount⟩ with
    nextSeq := state.nextSeq + 1
    log := state.log ++ [value] }

def closeSender : BroadcastState capacity Receiver Future Value :=
  let closed := { state with senderCount := state.senderCount - 1 }
  if closed.senderCount = 0 then closed.drainReceivers else closed

variable [DecidableEq Receiver]
variable (state : BroadcastState capacity Receiver Future Value)

def setReceiver (receiver : Receiver)
    (content : ReceiverState Value) : BroadcastState capacity Receiver Future Value :=
  { state with receiver := Function.update state.receiver receiver (some content) }

def addReceiver
    (receiver : Receiver) : BroadcastState capacity Receiver Future Value :=
  let woken := if state.receiverCount = 0 then state.drainSenders else state
  { woken.setReceiver receiver ⟨true, state.nextSeq, state.nextSeq, []⟩ with
    receiverCount := state.receiverCount + 1
    created := state.created ++ [receiver] }

def retire (receiver : Receiver)
    (content : ReceiverState Value) : BroadcastState capacity Receiver Future Value :=
  (state.removeReceiver content.cursor).setReceiver receiver { content with active := false }

def report (receiver : Receiver)
    (content : ReceiverState Value) (cursor : Nat) (answer : Answer Value) :
    BroadcastState capacity Receiver Future Value :=
  state.setReceiver receiver { content with
    cursor := cursor
    reports := content.reports ++ [⟨answer, state.nextSeq, state.senderCount⟩] }

/-- What `try_recv()` and `poll()` have in common. A value is read even if none is in the
slot, where `take()` would have failed its assert. -/
def receive (receiver : Receiver)
    (content : ReceiverState Value) :
    Option (Answer Value) × BroadcastState capacity Receiver Future Value :=
  if content.cursor < state.oldestSeq then
    let answer := .lagged (state.oldestSeq - content.cursor)
    (some answer, state.report receiver content state.oldestSeq answer)
  else if content.cursor < state.nextSeq then
    let (value, taken) := state.take content.cursor
    match value with
    | some value =>
      (some (.value value), taken.report receiver content (content.cursor + 1) (.value value))
    | none => (none, taken)
  else if state.senderCount = 0 then
    (some .closed, state.report receiver content content.cursor .closed)
  else (some .nothing, state.report receiver content content.cursor .nothing)

def setFuture (future : Future)
    (content : Option (FutureState Receiver)) :
    BroadcastState capacity Receiver Future Value :=
  { state with future := Function.update state.future future content }

def unlinkReceiver (future : Future) : BroadcastState capacity Receiver Future Value :=
  { state with receiverWaiters := state.receiverWaiters.erase future }

def pollRecv (future : Future)
    (content : FutureState Receiver) (receiver : Receiver) (reader : ReceiverState Value) :
    BroadcastState capacity Receiver Future Value :=
  match state.receive receiver reader with
  | (some .nothing, received) =>
    { received.setFuture future (some { content with waker := true, status := .pending false }) with
      receiverWaiters := received.receiverWaiters.erase future ++ [future] }
  | (_, received) =>
    (received.unlinkReceiver future).setFuture future (some { content with status := .ready })

def pollActive (future : Future)
    (content : FutureState Receiver) : BroadcastState capacity Receiver Future Value :=
  let unlinked := { state with senderWaiters := state.senderWaiters.erase future }
  if 0 < state.receiverCount then
    unlinked.setFuture future (some { content with status := .ready })
  else
    { unlinked.setFuture future (some { content with waker := true, status := .pending false }) with
      senderWaiters := unlinked.senderWaiters ++ [future] }

def dropFuture (future : Future)
    (content : FutureState Receiver) : BroadcastState capacity Receiver Future Value :=
  match content.subject with
  | .recv _ => (state.unlinkReceiver future).setFuture future none
  | .receiversActive =>
    { state.setFuture future none with senderWaiters := state.senderWaiters.erase future }

end Wakers

section Steps

variable [DecidableEq Future] [DecidableEq Receiver]
variable (state : BroadcastState capacity Receiver Future Value)

def activeReceiver
    (receiver : Receiver) : Option (ReceiverState Value) :=
  (state.receiver receiver).filter ReceiverState.active

def step :
    Move Receiver Future Value → Option (BroadcastState capacity Receiver Future Value)
  | .send value =>
    if 0 < state.senderCount then
      if state.receiverCount = 0 then some state else some (state.send value)
    else none
  | .cloneSender =>
    if 0 < state.senderCount then some { state with senderCount := state.senderCount + 1 }
    else none
  | .closeSender => if 0 < state.senderCount then some state.closeSender else none
  | .subscribe receiver =>
    if 0 < state.senderCount ∧ receiver ∉ state.created then some (state.addReceiver receiver)
    else none
  | .resubscribe source receiver =>
    if (state.activeReceiver source).isSome ∧ receiver ∉ state.created then
      some (state.addReceiver receiver)
    else none
  | .newInactive =>
    if 0 < state.senderCount then some { state with inactive := state.inactive + 1 } else none
  | .copyInactive =>
    if 0 < state.inactive then some { state with inactive := state.inactive + 1 } else none
  | .dropInactive =>
    if 0 < state.inactive then some { state with inactive := state.inactive - 1 } else none
  | .activate receiver =>
    if 0 < state.inactive ∧ receiver ∉ state.created then some (state.addReceiver receiver)
    else none
  | .deactivate receiver =>
    (state.activeReceiver receiver).map fun content =>
      { state.retire receiver content with inactive := state.inactive + 1 }
  | .closeReceiver receiver => (state.activeReceiver receiver).map (state.retire receiver)
  | .tryRecv receiver => (state.activeReceiver receiver).map fun content =>
    (state.receive receiver content).2
  | .recv receiver future =>
    if (state.activeReceiver receiver).isSome ∧ state.future future = none then
      some (state.setFuture future (some ⟨.recv receiver, false, 0, .created⟩))
    else none
  | .receiversActive future =>
    if 0 < state.senderCount ∧ state.future future = none then
      some (state.setFuture future (some ⟨.receiversActive, false, 0, .created⟩))
    else none
  | .poll future =>
    match state.future future with
    | some content =>
      if content.status = .ready then none
      else
        match content.subject with
        | .recv receiver => (state.activeReceiver receiver).map
            (state.pollRecv future content receiver)
        | .receiversActive => some (state.pollActive future content)
    | none => none
  | .drop future => (state.future future).map (state.dropFuture future)
  | .wake future =>
    match state.future future with
    | some content =>
      if 0 < content.inFlight then some (state.setFuture future (some content.awaken))
      else none
    | none => none

end Steps

end BroadcastState

def newChannel (capacity : Nat) {Receiver Future Value : Type} [DecidableEq Receiver]
    (first : Receiver) : BroadcastState capacity Receiver Future Value where
  ring := fun _ => ⟨none, 0⟩
  nextSeq := 0
  senderCount := 1
  receiverCount := 1
  receiverWaiters := []
  senderWaiters := []
  inactive := 0
  receiver := Function.update (fun _ => none) first (some ⟨true, 0, 0, []⟩)
  future := fun _ => none
  created := [first]
  log := []
  failed := false

def broadcastMachine (capacity : Nat) [NeZero capacity] {Receiver Future : Type} (Value : Type)
    [DecidableEq Receiver] [DecidableEq Future] (first : Receiver) :
    Machine (BroadcastState capacity Receiver Future Value) (Move Receiver Future Value) where
  initial := newChannel capacity first
  step := BroadcastState.step

/-! ## What a move can do -/

section Effects

variable {capacity : Nat} [NeZero capacity] {Receiver Future Value : Type}
  [DecidableEq Receiver] [DecidableEq Future]
  {state next : BroadcastState capacity Receiver Future Value}

inductive Effect (state : BroadcastState capacity Receiver Future Value) :
    Move Receiver Future Value → BroadcastState capacity Receiver Future Value → Prop
  | refused (value : Value) (none : state.receiverCount = 0) : Effect state (.send value) state
  | sent (value : Value) (receivers : state.receiverCount ≠ 0) :
      Effect state (.send value) (state.send value)
  | cloned (senders : 0 < state.senderCount) :
      Effect state .cloneSender { state with senderCount := state.senderCount + 1 }
  | senderClosed (senders : 0 < state.senderCount) :
      Effect state .closeSender state.closeSender
  | added {move} (receiver : Receiver) (fresh : receiver ∉ state.created) :
      Effect state move (state.addReceiver receiver)
  | handles {move} (inactive : Nat) : Effect state move { state with inactive := inactive }
  | retired {move} (receiver : Receiver) (content : ReceiverState Value) (inactive : Nat)
      (found : state.receiver receiver = some content) (active : content.active) :
      Effect state move { state.retire receiver content with inactive := inactive }
  | received (receiver : Receiver) (content : ReceiverState Value)
      (found : state.receiver receiver = some content) (active : content.active) :
      Effect state (.tryRecv receiver) (state.receive receiver content).2
  | requested {move} (future : Future) (subject : Subject Receiver)
      (fresh : state.future future = none) :
      Effect state move (state.setFuture future (some ⟨subject, false, 0, .created⟩))
  | polledRecv (future : Future) (content : FutureState Receiver) (receiver : Receiver)
      (reader : ReceiverState Value) (known : state.future future = some content)
      (subject : content.subject = .recv receiver)
      (found : state.receiver receiver = some reader) (active : reader.active) :
      Effect state (.poll future) (state.pollRecv future content receiver reader)
  | polledActive (future : Future) (content : FutureState Receiver)
      (known : state.future future = some content)
      (subject : content.subject = .receiversActive) :
      Effect state (.poll future) (state.pollActive future content)
  | dropped (future : Future) (content : FutureState Receiver)
      (known : state.future future = some content) :
      Effect state (.drop future) (state.dropFuture future content)
  | woken (future : Future) (content : FutureState Receiver)
      (known : state.future future = some content) (flying : 0 < content.inFlight) :
      Effect state (.wake future) (state.setFuture future (some content.awaken))

omit [NeZero capacity] [DecidableEq Receiver] [DecidableEq Future] in
theorem active_of_activeReceiver (found : state.activeReceiver receiver = some content) :
    state.receiver receiver = some content ∧ content.active :=
  Option.filter_eq_some_iff.mp found

theorem effect (step : state.step move = some next) : Effect state move next := by
  cases move with
  | send value =>
    rcases Option.ite_none_right_eq_some.mp step with ⟨_, sent⟩
    split at sent <;> cases sent
    · exact .refused value ‹_›
    · exact .sent value ‹_›
  | cloneSender =>
    rcases of_guard step with ⟨senders, rfl⟩
    exact .cloned senders
  | closeSender =>
    rcases of_guard step with ⟨senders, rfl⟩
    exact .senderClosed senders
  | subscribe receiver | resubscribe source receiver | activate receiver =>
    rcases of_guard step with ⟨⟨_, fresh⟩, rfl⟩
    exact .added receiver fresh
  | newInactive | copyInactive | dropInactive =>
    rcases of_guard step with ⟨_, rfl⟩
    exact .handles _
  | deactivate receiver | closeReceiver receiver =>
    rcases Option.map_eq_some_iff.mp step with ⟨content, found, made⟩
    subst made
    rcases active_of_activeReceiver found with ⟨present, active⟩
    exact .retired receiver content _ present active
  | tryRecv receiver =>
    rcases Option.map_eq_some_iff.mp step with ⟨content, found, made⟩
    subst made
    rcases active_of_activeReceiver found with ⟨present, active⟩
    exact .received receiver content present active
  | recv receiver future | receiversActive future =>
    rcases of_guard step with ⟨⟨_, fresh⟩, rfl⟩
    exact .requested future _ fresh
  | poll future =>
    simp only [BroadcastState.step] at step
    split at step
    · rename_i content known
      rcases Option.ite_none_left_eq_some.mp step with ⟨_, polled⟩
      split at polled
      · rename_i receiver subject
        rcases Option.map_eq_some_iff.mp polled with ⟨reader, found, made⟩
        subst made
        rcases active_of_activeReceiver found with ⟨present, active⟩
        exact .polledRecv future content receiver reader known subject present active
      · rename_i subject
        cases polled
        exact .polledActive future content known subject
    · cases step
  | drop future =>
    rcases Option.map_eq_some_iff.mp step with ⟨content, known, made⟩
    subst made
    exact .dropped future content known
  | wake future =>
    simp only [BroadcastState.step] at step
    split at step
    · rename_i content known
      rcases of_guard step with ⟨flying, rfl⟩
      exact .woken future content known flying
    · cases step

end Effects

end CoroRuntime.Broadcast
