import CoroRuntime.Mpsc.Waiters

/-! # The capacity of the channel

Two of the paths that put a value into the buffer do not look at the capacity: a send that
finds the receiver waiting, and `_tryPromoteSender()`.
-/

namespace CoroRuntime.Mpsc

open Foundation

/-- `ChannelError`, as far as `try_recv()` returns it. -/
inductive ChannelError
  | empty
  | senderDropped
  deriving DecidableEq, Repr

variable {Send Recv Waker T : Type} {state next : MpscState Send Recv Waker T}

def MpscState.tryRecvError (state : MpscState Send Recv Waker T) : Option ChannelError :=
  match state.buffer with
  | _ :: _ => none
  | [] => if state.senderCount = 0 then some .senderDropped else some .empty

/-- The last poll of the send returned Pending, and it still holds its value. -/
def SendFuture.suspended (future : SendFuture Waker T) : Bool :=
  match future.status with
  | .pending _ _ => future.hasValue
  | _ => false

/-- The receiver is not deactivated while a send is suspended. -/
def sparesSenders (state : MpscState Send Recv Waker T) : Move Send Recv Waker T → Bool
  | .deactivate => state.senderWaiters.isEmpty
  | _ => true

def Within (capacity : Nat) (state : MpscState Send Recv Waker T) : Prop :=
  state.capacity = capacity ∧ state.buffer.length ≤ capacity

/-- Until the receiver is dropped, a suspended send is in the list. -/
def Listed (state : MpscState Send Recv Waker T) : Prop :=
  state.receiver ≠ .dropped → ∀ id future, state.send id = some future →
    future.suspended = true → id ∈ state.senderWaiters

section Effects

variable [DecidableEq Recv] {capacity : Nat}

theorem Within.resolve (within : Within capacity state) (operation : Option (Operation Recv)) :
    Within capacity (state.resolve operation) := by
  rcases operation with _ | (_ | _) <;> exact within

variable [DecidableEq Send] [DecidableEq Waker]

namespace Within

variable (within : Within capacity state)

include within

omit [DecidableEq Recv] [DecidableEq Waker] in
theorem popFront (front : state.buffer = entry :: rest) :
    Within capacity (state.popFront entry rest) := by
  rcases within with ⟨same, bounded⟩
  rw [front, List.length_cons] at bounded
  unfold MpscState.popFront MpscState.tryPromoteSender
  split
  · split
    · exact ⟨same, by simpa [MpscState.popSender, MpscState.setSend] using bounded⟩
    · exact ⟨same, Nat.le_of_succ_le bounded⟩
  · exact ⟨same, Nat.le_of_succ_le bounded⟩

omit [DecidableEq Waker] in
theorem pollReceive (operation : Operation Recv) (waker : Waker) :
    Within capacity (state.pollReceive operation waker) := by
  unfold MpscState.pollReceive
  split
  · rename_i front
    exact (within.popFront front).resolve (some operation)
  · unfold MpscState.takeSender
    split <;> cases operation <;> exact within
  · split <;> cases operation <;> exact within

omit [DecidableEq Recv] [DecidableEq Waker] [DecidableEq Send] in
theorem pushBack (room : state.buffer.length < state.capacity) (value : T) :
    Within capacity (state.pushBack value) := by
  rcases within with ⟨rfl, _⟩
  exact ⟨rfl, by simpa [MpscState.pushBack] using Nat.succ_le_of_lt room⟩

omit [DecidableEq Recv] [DecidableEq Waker] in
theorem pollSend (linked : Linked state) (positive : 0 < capacity) {id : Send} :
    Within capacity (state.pollSend id future waker) := by
  unfold MpscState.pollSend
  split
  · exact within
  · split
    · rename_i node waits
      refine ⟨within.1, ?_⟩
      simpa [MpscState.pushBack, MpscState.setSend, (linked.empty node waits).1] using
        Nat.succ_le_of_lt positive
    · split
      · rename_i room
        exact within.pushBack room future.value
      · exact within

omit [DecidableEq Recv] [DecidableEq Waker] [DecidableEq Send] in
theorem trySend (value : T) : Within capacity (state.trySend value) := by
  have room : state.trySendError = none → state.buffer.length < state.capacity := by
    unfold MpscState.trySendError
    split <;> simp
  unfold MpscState.trySend
  split
  · exact within
  · exact within.pushBack (room ‹_›) value
  · exact within.pushBack (room ‹_›) value

theorem step (linked : Linked state) (positive : 0 < capacity)
    (stepped : state.step move = some next) : Within capacity next := by
  cases move with simp only [MpscState.step] at stepped
  | pollSend id =>
    split at stepped
    · rcases Option.map_eq_some_iff.mp stepped with ⟨waker, polling, rfl⟩
      exact within.pollSend linked positive
    · cases stepped
  | trySend value =>
    rcases of_unless stepped with ⟨_, rfl⟩
    have passed : Within capacity { state with passed := state.passed ++ [value] } := within
    exact passed.trySend value
  | pollRecv id waker =>
    split at stepped
    · rcases of_unless stepped with ⟨_, rfl⟩
      exact within.pollReceive _ _
    · cases stepped
  | pollNext waker =>
    rcases of_guard stepped with ⟨_, rfl⟩
    exact within.pollReceive _ _
  | tryRecv =>
    split at stepped
    · split at stepped <;> cases stepped
      · rename_i front
        exact within.popFront front
      · exact within
    · cases stepped
  | deactivate | destroyChannel =>
    rcases of_guard stepped with ⟨_, rfl⟩
    exact ⟨within.1, Nat.zero_le _⟩
  | dropSender =>
    rcases of_unless stepped with ⟨_, rfl⟩
    simp only [MpscState.dropSender]
    split
    · split <;> exact within
    · exact within
  | dropReceiver =>
    rcases of_unless stepped with ⟨_, rfl⟩
    unfold MpscState.dropReceiver
    split <;> exact within
  | cloneSender | downgrade | copyWeak | dropWeak | send =>
    rcases of_unless stepped with ⟨_, rfl⟩
    exact within
  | recv | dropRecv | activate | wake =>
    rcases of_guard stepped with ⟨_, rfl⟩
    exact within
  | upgrade =>
    rcases Option.ite_none_left_eq_some.mp stepped with ⟨_, stepped⟩
    split at stepped <;> cases stepped <;> exact within
  | pollLook | dropSend =>
    split at stepped
    · rcases of_guard stepped with ⟨_, rfl⟩
      exact within
    · cases stepped

end Within

omit [DecidableEq Send] [DecidableEq Waker] in
theorem Listed.resolve (listed : Listed state) (operation : Option (Operation Recv)) :
    Listed (state.resolve operation) := by
  rcases operation with _ | (_ | _) <;> exact listed

omit [DecidableEq Recv] [DecidableEq Waker] in
theorem Listed.update (listed : Listed state) {id : Send}
    (sends : next.send = Function.update state.send id (some future))
    (receiver : next.receiver = state.receiver)
    (kept : ∀ other ∈ state.senderWaiters, other = id ∨ other ∈ next.senderWaiters)
    (mine : future.suspended = true → state.receiver ≠ .dropped → id ∈ next.senderWaiters) :
    Listed next := by
  intro present other found is suspended
  rw [receiver] at present
  rw [sends] at is
  by_cases same : other = id
  · subst same
    rw [Function.update_self, Option.some.injEq] at is
    exact mine (is ▸ suspended) present
  · rw [Function.update_of_ne same] at is
    exact (kept other (listed present other found is suspended)).resolve_left same

theorem Listed.keeps (listed : Listed state) (spares : sparesSenders state move = true)
    (active : move = .deactivate → state.receiver = .active) (effect : Effect state move next) :
    Listed next := by
  cases effect with
  | counts | closed | tryReturned | recvCreated | tryDelivered | tryBuffered | dropRecv =>
    exact listed
  | sendCreated | lookedDone | returned | delivered | buffered =>
    exact listed.update rfl rfl (fun _ => .inr) fun suspended => by cases suspended
  | looked found =>
    exact listed.update rfl rfl (fun _ => .inr) fun suspended present =>
      listed present _ _ found suspended
  | @suspended _ id =>
    refine listed.update rfl rfl (fun other member => ?_) fun _ _ => ?_
    · by_cases same : other = id
      · exact .inl same
      · exact .inr (List.mem_append_left _ ((List.mem_erase_of_ne same).mpr member))
    · exact List.mem_append_right _ List.mem_cons_self
  | @dropSend _ id =>
    intro present other future is suspended
    by_cases same : other = id
    · subst same
      simp at is
    · simp only [Function.update_of_ne same] at is
      exact (List.mem_erase_of_ne same).mpr (listed present other future is suspended)
  | popped =>
    refine Listed.resolve ?_ _
    exact listed
  | promoted receives front waiting | taken receives drained waiting =>
    refine Listed.resolve ?_ _
    refine listed.update rfl rfl (fun other member => ?_) ?_
    · rw [waiting] at member
      exact List.mem_cons.mp member
    · intro suspended
      unfold SendFuture.suspended at suspended
      split at suspended <;> cases suspended
  | ended => exact listed.resolve _
  | @registered _ operation => cases operation <;> exact listed
  | deactivated =>
    have nobody : state.senderWaiters = [] := by simpa [sparesSenders] using spares
    intro _ id future is suspended
    simp only [MpscState.deactivate, MpscState.unlinkSenders, nobody, List.not_mem_nil,
      if_false] at is
    have member := listed (by simp [active rfl]) id future is suspended
    rw [nobody] at member
    exact member
  | activated inactive =>
    intro _
    exact listed (by simp [inactive])
  | receiverDropped | inactiveDropped => exact fun present => absurd rfl present
  | destroyed dropped => exact fun present => absurd dropped present
  | woken =>
    intro present id future is suspended
    rcases Option.map_eq_some_iff.mp is with ⟨before, found, rfl⟩
    refine listed present id before found ?_
    cases is : before.status <;> simp_all [SendFuture.suspended, SendStatus.woken]

/-- A channel with room for a value holds no more than its capacity, and when `try_recv()`
reports that the senders are gone, no suspended send is left. -/
theorem buffer_within_capacity (positive : 0 < capacity)
    (reached : (mpscMachine Send Recv Waker T capacity).Reaches
      (fun state move => sparesSenders state move = true) state) :
    state.buffer.length ≤ capacity ∧
      (state.receiver = .active → state.tryRecvError = some .senderDropped →
        ∀ id future, state.send id = some future → future.suspended = false) := by
  have linked := linked_of_reaches reached
  have both : Within capacity state ∧ Listed state := by
    refine reached.invariant_given linked_of_reaches
      (fun state => Within capacity state ∧ Listed state) ?_ ⟨⟨rfl, Nat.zero_le _⟩, ?_⟩
    · intro state move next linked both spares stepped
      refine ⟨both.1.step linked positive stepped,
        both.2.keeps spares ?_ (linked.effect stepped)⟩
      rintro rfl
      exact (of_guard stepped).1
    · intro _ id future is
      cases is
  refine ⟨both.1.2, fun active reports id future is => ?_⟩
  rw [Bool.eq_false_iff]
  intro suspended
  have listed := both.2 (by simp [active]) id future is suspended
  have full := (linked.full (List.ne_nil_of_mem listed)).2.1
  rw [both.1.1] at full
  unfold MpscState.tryRecvError at reports
  split at reports
  · cases reports
  · rename_i empty
    rw [empty] at full
    exact absurd full (Nat.not_le_of_lt positive)

end Effects

/-- A full channel with one suspended send. -/
theorem buffer_within_capacity_full :
    ∃ state : MpscState Nat Nat Nat Nat, (mpscMachine Nat Nat Nat Nat 1).Reaches
        (fun state move => sparesSenders state move = true) state ∧
      state.senderWaiters = [1] ∧ state.buffer.length = 1 ∧ state.buffer.length ≤ 1 := by
  refine exists_of_exec
    [.recv 0, .pollRecv 0 8, .send 0 5, .pollLook 0 9, .pollSend 0, .send 1 6, .pollLook 1 9,
      .pollSend 1, .dropSender]
    (by decide +kernel) fun reached => ⟨?_, ?_, (buffer_within_capacity (by decide) reached).1⟩
  all_goals decide +kernel

/-- A channel of capacity 0 buffers the value that a waiting receiver is sent. When nobody waits
for it, `try_recv()` reports that the senders are gone, and `recv()` returns it. -/
theorem unbuffered_channel_overflows :
    (∃ state : MpscState Nat Nat Nat Nat, (mpscMachine Nat Nat Nat Nat 0).Reaches
        anyMove state ∧ state.buffer.length = 1) ∧
      ∃ state next : MpscState Nat Nat Nat Nat, (mpscMachine Nat Nat Nat Nat 0).Reaches
        anyMove state ∧ state.tryRecvError = some .senderDropped ∧
        state.step (.pollNext 8) = some next ∧ next.received = [⟨5, 0⟩] := by
  constructor
  · exact exists_of_exec [.recv 0, .pollRecv 0 8, .send 0 5, .pollLook 0 9, .pollSend 0]
      (by decide +kernel) fun _ => rfl
  · have reached := (mpscMachine Nat Nat Nat Nat 0).reaches_exec anyMove
      [.send 0 5, .pollLook 0 9, .pollSend 0, .dropSender] (by decide +kernel)
    exact ⟨_, _, reached, rfl, rfl, rfl⟩

end CoroRuntime.Mpsc
