import CoroRuntime.Foundation.Execution

/-! # The mpsc channel

`MpscShared` with its senders, weak senders, receiver and futures. Each critical section
of its mutex is one move, and so is each call of a waker after it.
`MpscSendFuture::poll()` looks at `m_node.value` before it locks the mutex: that look is
a move of its own.
-/

namespace CoroRuntime.Mpsc

open Foundation

/-- A value and, as history, its turn in the line for the receiver. -/
structure Entry (T : Type) where
  value : T
  turn : Nat
  deriving DecidableEq, Repr

inductive ReceiverState
  | active
  | inactive
  | dropped
  deriving DecidableEq, Repr

inductive TrySendError
  | full
  | inactive
  | disconnected
  deriving DecidableEq, Repr

inductive SendStatus (Waker : Type)
  | created
  /-- Pending, and whether the waker of that poll has been called since. -/
  | pending (waker : Waker) (woken : Bool)
  | sent
  /-- Resolved with the unsent value. -/
  | failed
  deriving DecidableEq, Repr

structure SendFuture (Waker T : Type) where
  /-- The storage of `m_node.value`, and whether the optional has a value. -/
  value : T
  hasValue : Bool
  nodeWaker : Option Waker
  /-- History: the turn that the last link of the node was given. -/
  turn : Nat
  /-- The waker of a poll that has looked at `m_node.value` and not yet locked. -/
  polling : Option Waker
  status : SendStatus Waker
  deriving DecidableEq, Repr

inductive RecvStatus (Waker : Type)
  | created
  | pending (waker : Waker) (woken : Bool)
  | ready
  deriving DecidableEq, Repr

/-- The receive operations: `recv()` futures, and `poll_next()` of the receiver itself. -/
inductive Operation (Recv : Type)
  | future (id : Recv)
  | stream
  deriving DecidableEq, Repr

/-- `MpscReceiverNode` and, as history, the operation that registered it. -/
structure ReceiverNode (Recv Waker : Type) where
  waker : Option Waker
  operation : Operation Recv
  deriving DecidableEq, Repr

structure MpscState (Send Recv Waker T : Type) where
  buffer : List (Entry T)
  capacity : Nat
  senderCount : Nat
  receiver : ReceiverState
  senderWaiters : List Send
  receiverWaiter : Option (ReceiverNode Recv Waker)
  /-- The weak senders and the futures, which hold the shared state as well. -/
  weakSenders : Nat
  futures : Nat
  send : Send → Option (SendFuture Waker T)
  recv : Recv → Option (RecvStatus Waker)
  /-- The last `poll_next()` of the receiver. -/
  stream : RecvStatus Waker
  /-- Wakers that critical sections have taken out and that are still to be called.
  A null waker that is called without a check is `none`. -/
  waking : List (Option Waker)
  /-- History: how many turns have been given. -/
  turns : Nat
  /-- History: the values given to `send()` and `try_send()`. -/
  passed : List T
  received : List (Entry T)
  /-- History: the values handed back to their senders. -/
  returned : List T
  /-- History: the values dropped with a send future. -/
  droppedUnsent : List T
  /-- History: the values dropped with the buffer. -/
  discarded : List T

inductive Move (Send Recv Waker T : Type)
  | cloneSender
  | dropSender
  | downgrade
  | copyWeak
  | dropWeak
  | upgrade
  | send (future : Send) (value : T)
  | pollLook (future : Send) (waker : Waker)
  | pollSend (future : Send)
  | dropSend (future : Send)
  | trySend (value : T)
  | recv (future : Recv)
  | pollRecv (future : Recv) (waker : Waker)
  | dropRecv (future : Recv)
  | tryRecv
  | pollNext (waker : Waker)
  | deactivate
  | activate
  | dropReceiver
  | destroyChannel
  | wake (waker : Waker)
  deriving DecidableEq, Repr

def SendFuture.unresolved (future : SendFuture Waker T) : Bool :=
  match future.status with
  | .created | .pending _ _ => true
  | .sent | .failed => false

def SendStatus.woken [DecidableEq Waker] (called : Waker) : SendStatus Waker → SendStatus Waker
  | .pending waker woken => .pending waker (woken || waker = called)
  | status => status

def RecvStatus.woken [DecidableEq Waker] (called : Waker) : RecvStatus Waker → RecvStatus Waker
  | .pending waker woken => .pending waker (woken || waker = called)
  | status => status

namespace MpscState

variable {Send Recv Waker T : Type} [DecidableEq Send] [DecidableEq Recv]
  [DecidableEq Waker]
variable (state : MpscState Send Recv Waker T)

def setSend (id : Send)
    (future : SendFuture Waker T) : MpscState Send Recv Waker T :=
  { state with send := Function.update state.send id (some future) }

def setStatus (operation : Operation Recv)
    (status : RecvStatus Waker) : MpscState Send Recv Waker T :=
  match operation with
  | .future id => { state with recv := Function.update state.recv id (some status) }
  | .stream => { state with stream := status }

def pushBack (value : T) : MpscState Send Recv Waker T :=
  { state with buffer := state.buffer ++ [⟨value, state.turns⟩], turns := state.turns + 1 }

/-- Take the front node out of `sender_waiters` and its value out of the node. Its waker
is called later. -/
def popSender (id : Send) (waiters : List Send)
    (future : SendFuture Waker T) : MpscState Send Recv Waker T :=
  { state with
    senderWaiters := waiters
    waking := state.waking ++ future.nodeWaker.toList.map some }.setSend id
      { future with hasValue := false, nodeWaker := none }

def tryPromoteSender : MpscState Send Recv Waker T :=
  match state.senderWaiters with
  | id :: waiters =>
    match state.send id with
    | some future =>
      { state.popSender id waiters future with
        buffer := state.buffer ++ [⟨future.value, future.turn⟩] }
    | none => state
  | [] => state

def popFront (entry : Entry T) (rest : List (Entry T)) : MpscState Send Recv Waker T :=
  { state with buffer := rest, received := state.received ++ [entry] }.tryPromoteSender

def takeSender (id : Send) (waiters : List Send) : MpscState Send Recv Waker T :=
  match state.send id with
  | some future =>
    { state.popSender id waiters future with
      received := state.received ++ [⟨future.value, future.turn⟩] }
  | none => state

/-- The body that `MpscRecvFuture::poll()` and `MpscReceiver::poll_next()` share. -/
def pollReceive (operation : Operation Recv)
    (waker : Waker) : MpscState Send Recv Waker T :=
  match state.buffer, state.senderWaiters with
  | entry :: rest, _ => (state.popFront entry rest).setStatus operation .ready
  | [], id :: waiters => (state.takeSender id waiters).setStatus operation .ready
  | [], [] =>
    if state.senderCount = 0 then state.setStatus operation .ready
    else { state with receiverWaiter := some ⟨some waker, operation⟩ }.setStatus operation
      (.pending waker false)

def pollSend (id : Send) (future : SendFuture Waker T)
    (waker : Waker) : MpscState Send Recv Waker T :=
  let unlinked := { state with senderWaiters := state.senderWaiters.erase id }
  if state.receiver ≠ .active then
    { unlinked with returned := state.returned ++ [future.value] }.setSend id
      { future with polling := none, status := .failed }
  else
    match state.receiverWaiter with
    | some node =>
      { unlinked with
        receiverWaiter := none
        waking := state.waking ++ [node.waker] }.pushBack future.value |>.setSend id
          { future with polling := none, status := .sent }
    | none =>
      if state.buffer.length < state.capacity then
        -- the node is not unlinked here
        (state.pushBack future.value).setSend id
          { future with polling := none, status := .sent }
      else
        { unlinked with
          senderWaiters := state.senderWaiters.erase id ++ [id]
          turns := state.turns + 1 }.setSend id
            { future with
              nodeWaker := some waker
              turn := state.turns
              polling := none
              status := .pending waker false }

def trySendError : Option TrySendError :=
  match state.receiver with
  | .dropped => some .disconnected
  | .inactive => some .inactive
  | .active => if state.capacity ≤ state.buffer.length then some .full else none

def trySend (value : T) : MpscState Send Recv Waker T :=
  match state.trySendError, state.receiverWaiter with
  | some _, _ => { state with returned := state.returned ++ [value] }
  | none, some node =>
    { state.pushBack value with
      receiverWaiter := none
      waking := state.waking ++ [node.waker] }
  | none, none => state.pushBack value

def unlinkSenders : MpscState Send Recv Waker T :=
  { state with
    senderWaiters := []
    waking := state.waking ++
      (state.senderWaiters.filterMap fun id => (state.send id).bind SendFuture.nodeWaker).map some
    send := fun id =>
      if id ∈ state.senderWaiters then
        (state.send id).map fun future => { future with nodeWaker := none }
      else state.send id }

def dropSender : MpscState Send Recv Waker T :=
  let left := { state with senderCount := state.senderCount - 1 }
  if left.senderCount = 0 then
    match state.receiverWaiter with
    | some node =>
      -- the waker is moved out, the slot stays engaged
      { left with
        receiverWaiter := some { node with waker := none }
        waking := state.waking ++ node.waker.toList.map some }
    | none => left
  else left

def deactivate : MpscState Send Recv Waker T :=
  { state with
    receiver := .inactive
    receiverWaiter := none
    stream := .created
    buffer := []
    discarded := state.discarded ++ state.buffer.map Entry.value }.unlinkSenders

/-- `close()` of the receiver or of the inactive receiver. -/
def dropReceiver : MpscState Send Recv Waker T :=
  match state.receiver with
  | .active => { state with receiver := .dropped, stream := .created }.unlinkSenders
  | .inactive | .dropped => { state with receiver := .dropped }

def callWaker (called : Waker) : MpscState Send Recv Waker T :=
  { state with
    send := fun id => (state.send id).map fun future =>
      { future with status := future.status.woken called }
    recv := fun id => (state.recv id).map (RecvStatus.woken called)
    stream := state.stream.woken called }

def step :
    Move Send Recv Waker T → Option (MpscState Send Recv Waker T)
  | .cloneSender =>
    if state.senderCount = 0 then none
    else some { state with senderCount := state.senderCount + 1 }
  | .dropSender => if state.senderCount = 0 then none else some state.dropSender
  | .downgrade =>
    if state.senderCount = 0 then none
    else some { state with weakSenders := state.weakSenders + 1 }
  | .copyWeak =>
    if state.weakSenders = 0 then none
    else some { state with weakSenders := state.weakSenders + 1 }
  | .dropWeak =>
    if state.weakSenders = 0 then none
    else some { state with weakSenders := state.weakSenders - 1 }
  | .upgrade =>
    if state.weakSenders = 0 then none
    else if state.senderCount = 0 then some state
    else some { state with senderCount := state.senderCount + 1 }
  | .send id value =>
    if state.senderCount = 0 ∨ (state.send id).isSome then none
    else some ({ state with
      futures := state.futures + 1
      passed := state.passed ++ [value] }.setSend id ⟨value, true, none, 0, none, .created⟩)
  | .pollLook id waker =>
    match state.send id with
    | some future =>
      if future.polling.isNone ∧ future.unresolved then
        some (state.setSend id
          (if future.hasValue then { future with polling := some waker }
          else { future with status := .sent }))
      else none
    | none => none
  | .pollSend id =>
    match state.send id with
    | some future => future.polling.map (state.pollSend id future)
    | none => none
  | .dropSend id =>
    match state.send id with
    | some future =>
      if future.polling.isNone then
        some { state with
          senderWaiters := state.senderWaiters.erase id
          futures := state.futures - 1
          send := Function.update state.send id none
          droppedUnsent := state.droppedUnsent ++
            if future.unresolved ∧ future.hasValue then [future.value] else [] }
      else none
    | none => none
  | .trySend value =>
    if state.senderCount = 0 then none
    else some ({ state with passed := state.passed ++ [value] }.trySend value)
  | .recv id =>
    if state.receiver = .active ∧ (state.recv id).isNone then
      some ({ state with futures := state.futures + 1 }.setStatus (.future id) .created)
    else none
  | .pollRecv id waker =>
    match state.recv id with
    | some status =>
      -- not again after it has resolved
      if status = .ready then none else some (state.pollReceive (.future id) waker)
    | none => none
  | .dropRecv id =>
    if (state.recv id).isSome then
      some { state with
        receiverWaiter := none
        futures := state.futures - 1
        recv := Function.update state.recv id none }
    else none
  | .tryRecv =>
    if state.receiver = .active then
      match state.buffer with
      | entry :: rest => some (state.popFront entry rest)
      | [] => some state
    else none
  | .pollNext waker =>
    if state.receiver = .active then some (state.pollReceive .stream waker) else none
  | .deactivate => if state.receiver = .active then some state.deactivate else none
  | .activate =>
    if state.receiver = .inactive then some { state with receiver := .active } else none
  | .dropReceiver => if state.receiver = .dropped then none else some state.dropReceiver
  | .destroyChannel =>
    if state.senderCount = 0 ∧ state.weakSenders = 0 ∧ state.futures = 0 ∧
        state.receiver = .dropped then
      some { state with
        buffer := []
        discarded := state.discarded ++ state.buffer.map Entry.value }
    else none
  | .wake called =>
    -- a call through a null waker never returns
    if some called ∈ state.waking then
      some ({ state with waking := state.waking.erase (some called) }.callWaker called)
    else none

end MpscState

def mpscMachine (Send Recv Waker T : Type) [DecidableEq Send] [DecidableEq Recv]
    [DecidableEq Waker] (capacity : Nat) :
    Machine (MpscState Send Recv Waker T) (Move Send Recv Waker T) where
  initial :=
    { buffer := []
      capacity := capacity
      senderCount := 1
      receiver := .active
      senderWaiters := []
      receiverWaiter := none
      weakSenders := 0
      futures := 0
      send := fun _ => none
      recv := fun _ => none
      stream := .created
      waking := []
      turns := 0
      passed := []
      received := []
      returned := []
      droppedUnsent := []
      discarded := [] }
  step := MpscState.step

end CoroRuntime.Mpsc
