import CoroRuntime.Mpsc.Waiters

/-! # The waker of the waiting receiver -/

namespace CoroRuntime.Mpsc

open Foundation

variable {Send Recv Waker T : Type} {state next : MpscState Send Recv Waker T}

namespace MpscState

def status (state : MpscState Send Recv Waker T) : Operation Recv → Option (RecvStatus Waker)
  | .future id => state.recv id
  | .stream => some state.stream

def outstanding (state : MpscState Send Recv Waker T) (operation : Operation Recv) : Bool :=
  match state.status operation with
  | some (.pending _ _) => true
  | _ => false

end MpscState

/-- The waiting receiver has its waker in the slot until the last sender takes it out. -/
structure Registered (state : MpscState Send Recv Waker T) : Prop where
  armed : ∀ node, state.receiverWaiter = some node →
    (node.waker.isSome ↔ state.senderCount ≠ 0)
  outstanding : ∀ node waker, state.receiverWaiter = some node → node.waker = some waker →
    state.receiver ≠ .dropped → ∃ woken, state.status node.operation = some (.pending waker woken)

/-- The move is a send that finds the receiver waiting with `node`. -/
def MpscState.FindsWaiter (state : MpscState Send Recv Waker T)
    (node : ReceiverNode Recv Waker) : Move Send Recv Waker T → Prop
  | .pollSend id => (∃ future, state.send id = some future ∧ future.polling.isSome) ∧
      state.receiver = .active ∧ state.receiverWaiter = some node
  | .trySend _ => state.senderCount ≠ 0 ∧ state.trySendError = none ∧
      state.receiverWaiter = some node
  | _ => False

theorem MpscState.FindsWaiter.found (finds : state.FindsWaiter node move) :
    state.receiver = .active ∧ state.receiverWaiter = some node := by
  cases move with
  | pollSend id => exact finds.2
  | trySend value =>
    refine ⟨?_, finds.2.2⟩
    have accepted := finds.2.1
    unfold MpscState.trySendError at accepted
    split at accepted
    · cases accepted
    · cases accepted
    · assumption
  | _ => exact finds.elim

theorem registered_of_empty (nowaits : state.receiverWaiter = none) : Registered state := by
  constructor
  · intro node waits
    rw [nowaits] at waits
    exact nomatch waits
  · intro node _ waits
    rw [nowaits] at waits
    exact nomatch waits

theorem MpscState.status_callWaker [DecidableEq Waker] (called : Waker)
    (operation : Operation Recv) :
    (state.callWaker called).status operation =
      (state.status operation).map (RecvStatus.woken called) := by
  cases operation <;> rfl

section Effects

variable [DecidableEq Recv]

theorem MpscState.status_setStatus (operation other : Operation Recv)
    (result : RecvStatus Waker) :
    (state.setStatus operation result).status other =
      if other = operation then some result else state.status other := by
  cases operation <;> cases other <;>
    simp [MpscState.setStatus, MpscState.status, Function.update_apply]

theorem MpscState.setStatus_receiverWaiter (operation : Operation Recv)
    (result : RecvStatus Waker) :
    (state.setStatus operation result).receiverWaiter = state.receiverWaiter := by
  cases operation <;> rfl

theorem MpscState.resolve_receiverWaiter (operation : Option (Operation Recv)) :
    (state.resolve operation).receiverWaiter = state.receiverWaiter := by
  rcases operation with _ | (_ | _) <;> rfl

variable [DecidableEq Send] [DecidableEq Waker]

theorem Registered.keeps (registered : Registered state) (linked : Linked state)
    (effect : Effect state move next) : Registered next := by
  cases effect with
  | counts same =>
    refine ⟨?_, registered.outstanding⟩
    intro node waits
    rw [registered.armed node waits]
    exact (not_congr same).symm
  | closed =>
    constructor
    · intro node waits
      rcases Option.map_eq_some_iff.mp waits with ⟨before, _, rfl⟩
      simp
    · intro node waker waits armed
      rcases Option.map_eq_some_iff.mp waits with ⟨before, _, rfl⟩
      cases armed
  | sendCreated | looked | lookedDone | returned | buffered | suspended | dropSend
  | tryReturned | tryBuffered | destroyed =>
    exact ⟨registered.armed, registered.outstanding⟩
  | delivered | tryDelivered | dropRecv | deactivated => exact registered_of_empty rfl
  | @recvCreated _ id unused =>
    refine ⟨registered.armed, ?_⟩
    intro node waker waits armed present
    rcases registered.outstanding node waker waits armed present with ⟨woken, pending⟩
    have different : node.operation ≠ .future id := by
      intro same
      rw [same, MpscState.status, unused] at pending
      cases pending
    exact ⟨woken, by rw [MpscState.status_setStatus, if_neg different]; exact pending⟩
  | popped receives front nobody nowaits =>
    exact registered_of_empty (by rw [MpscState.resolve_receiverWaiter]; exact nowaits)
  | promoted receives front waiting found =>
    have nowaits := (linked.full (by rw [waiting]; simp)).2.2
    exact registered_of_empty (by rw [MpscState.resolve_receiverWaiter]; exact nowaits)
  | taken receives drained waiting found =>
    have nowaits := (linked.full (by rw [waiting]; simp)).2.2
    exact registered_of_empty (by rw [MpscState.resolve_receiverWaiter]; exact nowaits)
  | @ended _ operation receives finished =>
    cases operation with
    | none => exact registered
    | some operation =>
      have unarmed : ∀ node, state.receiverWaiter = some node → node.waker = none := by
        intro node waits
        have armed := registered.armed node waits
        rw [finished rfl] at armed
        simpa using armed
      cases operation <;>
      · refine ⟨registered.armed, ?_⟩
        intro node waker waits armed
        rw [unarmed node waits] at armed
        cases armed
  | @registered _ operation waker receives active drained nobody remaining =>
    constructor
    · intro node waits
      rw [MpscState.setStatus_receiverWaiter] at waits
      cases waits
      cases operation <;> exact iff_of_true rfl remaining
    · intro node armed waits same _
      rw [MpscState.setStatus_receiverWaiter] at waits
      cases waits
      cases same
      exact ⟨false, by rw [MpscState.status_setStatus, if_pos rfl]⟩
  | activated inactive =>
    refine ⟨registered.armed, ?_⟩
    intro node waker waits armed _
    exact registered.outstanding node waker waits armed (by rw [inactive]; nofun)
  | receiverDropped | inactiveDropped =>
    exact ⟨registered.armed, fun _ _ _ _ present => (present rfl).elim⟩
  | @woken _ called =>
    refine ⟨registered.armed, ?_⟩
    intro node waker waits armed present
    rcases registered.outstanding node waker waits armed present with ⟨woken, pending⟩
    refine ⟨woken || waker = called, ?_⟩
    rw [MpscState.status_callWaker]
    exact congrArg (Option.map _) pending

end Effects

end CoroRuntime.Mpsc
