import CoroRuntime.Mpsc.Conservation
import CoroRuntime.Mpsc.Wakeups

/-! # Values are received once and in turn -/

namespace CoroRuntime.Mpsc

open Foundation
open Function (update update_of_ne update_self)
open scoped BigOperators

variable {Send Recv Waker T : Type} {state next : MpscState Send Recv Waker T}

/-! ## Turns -/

namespace MpscState

def turn (state : MpscState Send Recv Waker T) (id : Send) : Nat :=
  (state.send id).elim 0 SendFuture.turn

/-- The turns of what was received, what is in the buffer and who waits behind it. -/
def line (state : MpscState Send Recv Waker T) : List Nat :=
  state.received.map Entry.turn ++ state.buffer.map Entry.turn ++ state.senderWaiters.map state.turn

end MpscState

/-- Turns are given out in increasing order and nobody jumps the line. -/
structure InLine (state : MpscState Send Recv Waker T) : Prop where
  sorted : state.line.Pairwise (· < ·)
  given : ∀ turn ∈ state.line, turn < state.turns

namespace InLine

theorem sublist (inLine : InLine state) (shorter : next.line.Sublist state.line)
    (turns : next.turns = state.turns) : InLine next := by
  refine ⟨inLine.sorted.sublist shorter, ?_⟩
  intro turn member
  rw [turns]
  exact inLine.given turn (shorter.subset member)

theorem join (inLine : InLine state) (rest : List Nat) (shorter : rest.Sublist state.line)
    (line : next.line = rest ++ [state.turns]) (turns : next.turns = state.turns + 1) :
    InLine next := by
  constructor
  · rw [line]
    refine List.pairwise_append.mpr ⟨inLine.sorted.sublist shorter, List.pairwise_singleton .., ?_⟩
    intro turn member last single
    rw [List.mem_singleton.mp single]
    exact inLine.given turn (shorter.subset member)
  · intro turn member
    rw [line] at member
    rw [turns]
    rcases List.mem_append.mp member with earlier | last
    · exact (inLine.given turn (shorter.subset earlier)).trans (Nat.lt_succ_self _)
    · rw [List.mem_singleton.mp last]
      exact Nat.lt_succ_self _

theorem same (inLine : InLine state) (line : next.line = state.line)
    (turns : next.turns = state.turns) : InLine next :=
  inLine.sublist (by rw [line]) turns

theorem resolve [DecidableEq Recv] (inLine : InLine state) (operation : Option (Operation Recv)) :
    InLine (state.resolve operation) := by
  rcases operation with _ | (_ | _) <;> exact ⟨inLine.sorted, inLine.given⟩

theorem received_sublist : (state.received.map Entry.turn).Sublist state.line :=
  (List.sublist_append_left _ _).trans (List.sublist_append_left _ _)

variable [DecidableEq Send]

theorem turns_update {id : Send} {waiters : List Send}
    (send : next.send = update state.send id (some future))
    (own : id ∈ waiters → future.turn = state.turn id) :
    waiters.map next.turn = waiters.map state.turn := by
  apply List.map_congr_left
  intro other member
  unfold MpscState.turn
  rw [send]
  by_cases same : other = id
  · subst same
    rw [update_self]
    exact own member
  · rw [update_of_ne same]

/-- The first waiter has the turn after the last value of the buffer. -/
theorem line_popSender {id : Send} (waiting : state.senderWaiters = id :: waiters)
    (found : state.send id = some future) (send : next.send = update state.send id
      (some { future with hasValue := false, nodeWaker := none }))
    (left : next.senderWaiters = waiters)
    (values : next.received.map Entry.turn ++ next.buffer.map Entry.turn =
      state.received.map Entry.turn ++ state.buffer.map Entry.turn ++ [future.turn]) :
    next.line = state.line := by
  have own : state.turn id = future.turn := by simp [MpscState.turn, found]
  have kept : waiters.map next.turn = waiters.map state.turn :=
    turns_update send fun _ => own.symm
  simp only [MpscState.line, values, left, kept, waiting, List.map_cons, own]
  simp

variable [DecidableEq Recv] [DecidableEq Waker]

theorem keeps (inLine : InLine state) (linked : Linked state) (effect : Effect state move next) :
    InLine next := by
  cases effect with
  | counts | closed | tryReturned | recvCreated | dropRecv | activated | inactiveDropped =>
    exact ⟨inLine.sorted, inLine.given⟩
  | @registered _ operation => cases operation <;> exact ⟨inLine.sorted, inLine.given⟩
  | @ended _ operation => exact inLine.resolve operation
  | @sendCreated _ id _ unused =>
    refine inLine.same ?_ rfl
    refine congrArg (_ ++ _ ++ ·) (turns_update rfl ?_)
    intro waits
    rcases linked.alive id waits with ⟨future, found⟩
    rw [unused] at found
    cases found
  | looked found | lookedDone found | returned found =>
    refine inLine.same ?_ rfl
    refine congrArg (_ ++ _ ++ ·) (turns_update rfl ?_)
    intro _
    simp [MpscState.turn, found]
  | delivered found polling waits drained nobody =>
    refine inLine.join (state.received.map Entry.turn) received_sublist ?_ rfl
    simp [MpscState.line, MpscState.setSend, nobody]
  | buffered found polling nowaits nobody =>
    refine inLine.join state.line (List.Sublist.refl _) ?_ rfl
    simp [MpscState.line, MpscState.setSend, nobody]
  | tryDelivered waits drained nobody =>
    refine inLine.join (state.received.map Entry.turn) received_sublist ?_ rfl
    simp [MpscState.line, nobody]
  | tryBuffered nowaits nobody =>
    refine inLine.join state.line (List.Sublist.refl _) ?_ rfl
    simp [MpscState.line, nobody]
  | @suspended _ id future _ found =>
    -- a future that is polled again goes to the end of the line
    refine inLine.join (state.received.map Entry.turn ++ state.buffer.map Entry.turn ++
      (state.senderWaiters.erase id).map state.turn) ?_ ?_ rfl
    · exact (List.Sublist.refl _).append (List.erase_sublist.map _)
    · refine .trans ?_ (List.append_assoc _ _ _).symm
      apply congrArg (_ ++ _ ++ ·)
      refine List.map_append.trans (congrArg₂ (· ++ ·) (turns_update rfl ?_) ?_)
      · exact fun again => (linked.nodup.not_mem_erase again).elim
      · simp [MpscState.turn, MpscState.setSend]
  | @dropSend _ id _ found =>
    refine inLine.sublist ?_ rfl
    apply (List.Sublist.refl _).append
    have kept : ∀ other ∈ state.senderWaiters.erase id,
        (update state.send id none other).elim 0 SendFuture.turn = state.turn other := by
      intro other member
      have different : other ≠ id := by
        intro same
        subst same
        exact linked.nodup.not_mem_erase member
      rw [update_of_ne different]
      rfl
    exact (List.map_congr_left kept) ▸ List.erase_sublist.map _
  | popped receives front nobody =>
    refine InLine.resolve ?_ _
    refine inLine.same ?_ rfl
    simp [MpscState.line, front, nobody]
  | promoted receives front waiting found =>
    refine InLine.resolve ?_ _
    refine inLine.same (line_popSender waiting found rfl rfl ?_) rfl
    simp [MpscState.setSend, front]
  | taken receives drained waiting found =>
    refine InLine.resolve ?_ _
    refine inLine.same (line_popSender waiting found rfl rfl ?_) rfl
    simp [MpscState.setSend, drained]
  | deactivated =>
    refine inLine.sublist ?_ rfl
    simp [MpscState.deactivate, MpscState.unlinkSenders, MpscState.line]
  | receiverDropped =>
    refine inLine.sublist ?_ rfl
    simp [MpscState.unlinkSenders, MpscState.line]
  | destroyed =>
    refine inLine.sublist ?_ rfl
    exact ((List.Sublist.refl _).append (List.nil_sublist _)).append (List.Sublist.refl _)
  | woken =>
    refine inLine.same ?_ rfl
    refine congrArg (_ ++ _ ++ ·) (List.map_congr_left ?_)
    intro id _
    simp only [MpscState.turn, MpscState.callWaker]
    cases state.send id <;> rfl

end InLine

/-! ## Accepted values -/

theorem MpscState.mem_accepted :
    value ∈ state.accepted ↔ value ∈ state.buffer.map Entry.value ∨
      value ∈ state.received.map Entry.value ∨ value ∈ state.discarded := by
  simp only [MpscState.accepted, MpscState.stored, Multiset.mem_add, Multiset.mem_coe, or_assoc]

section Accepted

variable [DecidableEq Recv]

theorem MpscState.accepted_resolve (operation : Option (Operation Recv)) :
    (state.resolve operation).accepted = state.accepted := by
  rcases operation with _ | (_ | _) <;> rfl

variable [DecidableEq Send] [DecidableEq Waker]

/-- What the channel has accepted it does not give back. -/
theorem Effect.accepts (effect : Effect state move next) :
    ∀ value ∈ state.accepted, value ∈ next.accepted := by
  intro value
  cases effect with
  | counts | closed | tryReturned | recvCreated | dropRecv | activated | inactiveDropped
  | sendCreated | looked | lookedDone | returned | suspended | dropSend | receiverDropped
  | woken => exact id
  | @registered _ operation => cases operation <;> exact id
  | ended =>
    rw [MpscState.accepted_resolve]
    exact id
  | delivered found polling waits drained | tryDelivered waits drained =>
    simp only [MpscState.mem_accepted, MpscState.setSend, drained]
    exact Or.imp_left (by simp)
  | buffered | tryBuffered =>
    simp only [MpscState.mem_accepted, MpscState.setSend, List.map_append, List.mem_append]
    exact Or.imp_left .inl
  | popped receives front =>
    rw [MpscState.accepted_resolve]
    simp only [MpscState.mem_accepted, front, List.map_append, List.map_cons, List.mem_append,
      List.mem_cons]
    tauto
  | promoted receives front =>
    rw [MpscState.accepted_resolve]
    simp only [MpscState.mem_accepted, MpscState.setSend, front, List.map_append,
      List.map_cons, List.mem_append, List.mem_cons]
    tauto
  | taken =>
    rw [MpscState.accepted_resolve]
    simp only [MpscState.mem_accepted, MpscState.setSend, List.map_append, List.mem_append]
    tauto
  | deactivated | destroyed =>
    simp only [MpscState.mem_accepted, MpscState.deactivate, MpscState.unlinkSenders,
      List.mem_append]
    tauto

/-- The value of a send that has resolved successfully, or of a future whose value the
receiver's side has taken. -/
def SendFuture.accepted (future : SendFuture Waker T) : Prop :=
  future.status = .sent ∨ future.hasValue = false

def AcceptedKept (state : MpscState Send Recv Waker T) : Prop :=
  ∀ id future, state.send id = some future → future.accepted → future.value ∈ state.accepted

namespace AcceptedKept

omit [DecidableEq Recv] [DecidableEq Waker] in
theorem update (kept : AcceptedKept state) {id : Send}
    (send : next.send = update state.send id (some future))
    (accepts : ∀ value ∈ state.accepted, value ∈ next.accepted)
    (own : future.accepted → future.value ∈ next.accepted) : AcceptedKept next := by
  intro other found known accepted
  rw [send] at known
  by_cases same : other = id
  · subst same
    rw [update_self] at known
    cases known
    exact own accepted
  · rw [update_of_ne same] at known
    exact accepts _ (kept other found known accepted)

omit [DecidableEq Recv] [DecidableEq Waker] in
theorem unlinkSenders (kept : AcceptedKept state) : AcceptedKept state.unlinkSenders := by
  intro id future known accepted
  simp only [MpscState.unlinkSenders] at known
  split at known
  · rcases Option.map_eq_some_iff.mp known with ⟨before, found, rfl⟩
    exact kept id before found accepted
  · exact kept id future known accepted

theorem keeps (kept : AcceptedKept state) (effect : Effect state move next) :
    AcceptedKept next := by
  have accepts := effect.accepts
  cases effect with
  | counts | closed | tryReturned | tryDelivered | tryBuffered | recvCreated | dropRecv
  | activated | inactiveDropped | destroyed =>
    exact fun id future known accepted => accepts _ (kept id future known accepted)
  | @registered _ operation =>
    cases operation <;>
      exact fun id future known accepted => accepts _ (kept id future known accepted)
  | @popped _ operation | @ended _ operation =>
    rcases operation with _ | (_ | _) <;>
      exact fun id future known accepted => accepts _ (kept id future known accepted)
  | sendCreated => exact kept.update rfl accepts (by rintro (sent | taken) <;> contradiction)
  | @looked _ id future _ found =>
    exact kept.update rfl accepts fun accepted => accepts _ (kept id future found accepted)
  | @lookedDone _ id future found unresolved taken =>
    exact kept.update rfl accepts fun _ => accepts _ (kept id future found (.inr taken))
  | @returned _ id future found | @suspended _ id future _ found =>
    apply kept.update rfl accepts
    rintro (sent | taken)
    · cases sent
    · exact accepts _ (kept id future found (.inr taken))
  | delivered | buffered =>
    refine kept.update rfl accepts fun _ => ?_
    simp [MpscState.mem_accepted, MpscState.setSend]
  | @dropSend _ id future found =>
    intro other after known accepted
    by_cases same : other = id
    · subst same
      simp at known
    · simp only [update_of_ne same] at known
      exact accepts _ (kept other after known accepted)
  | @promoted _ operation | @taken _ operation =>
    have received : ∀ {after : MpscState Send Recv Waker T}, AcceptedKept after →
        AcceptedKept (after.resolve operation) := by
      intro after kept
      rcases operation with _ | (_ | _) <;> exact kept
    rw [MpscState.accepted_resolve] at accepts
    refine received (kept.update rfl accepts fun _ => ?_)
    simp [MpscState.mem_accepted, MpscState.setSend]
  | deactivated =>
    apply AcceptedKept.unlinkSenders
    exact fun id future known accepted => accepts _ (kept id future known accepted)
  | receiverDropped => exact AcceptedKept.unlinkSenders kept
  | woken =>
    intro id future known accepted
    rcases Option.map_eq_some_iff.mp known with ⟨before, found, rfl⟩
    refine kept id before found (accepted.imp_left ?_)
    cases before.status <;> simp [SendStatus.woken]

end AcceptedKept

end Accepted

/-! ## Runs -/

/-- Every value that was passed to the channel is in one place, what was accepted stays
so, and values are received in the order in which they joined the line: pushed into the
buffer, or linked behind it by the poll that suspended them. -/
structure ValuesOnce [DecidableEq Send] [Fintype Send] [DecidableEq Recv] [DecidableEq Waker]
    (state : MpscState Send Recv Waker T) : Prop where
  conserved : ∑ place, state.holdings place = (state.passed : Multiset T)
  onePlace : state.passed.Nodup → ∀ value left right, value ∈ state.holdings left →
    value ∈ state.holdings right → left = right
  accepted : ∀ id future, state.send id = some future → future.accepted →
    future.value ∈ state.accepted
  settled : ∀ move next, state.step move = some next →
    ∀ value ∈ state.accepted, value ∈ next.accepted
  inTurn : (state.received.map Entry.turn).Pairwise (· < ·)

structure Accounted [Fintype Send] (state : MpscState Send Recv Waker T) : Prop where
  linked : Linked state
  held : Held state
  conserved : Conserved state
  inLine : InLine state
  accepted : AcceptedKept state

section Runs

variable [DecidableEq Send] [Fintype Send] [DecidableEq Recv] [DecidableEq Waker]

theorem accounted_of_reaches
    (reached : (mpscMachine Send Recv Waker T capacity).Reaches valuesUndisturbed state) :
    Accounted state := by
  refine reached.invariant Accounted ?_ ?_
  · intro state move next accounted undisturbed stepped
    have effect := accounted.linked.effect stepped
    exact ⟨accounted.linked.keeps effect,
      accounted.held.keeps accounted.linked undisturbed effect,
      accounted.conserved.keeps accounted.held effect,
      accounted.inLine.keeps accounted.linked effect, accounted.accepted.keeps effect⟩
  · refine ⟨⟨List.nodup_nil, nofun, (absurd rfl ·), nofun⟩, ⟨nofun, nofun⟩, ?_, ⟨.nil, nofun⟩,
      nofun⟩
    apply Finset.sum_eq_zero
    rintro (_ | _ | _) _ <;> rfl

theorem mpsc_values_once {capacity : Nat}
    (reached : (mpscMachine Send Recv Waker T capacity).Reaches valuesUndisturbed state) :
    ValuesOnce state := by
  have accounted := accounted_of_reaches reached
  refine ⟨accounted.conserved, ?_, accounted.accepted, ?_,
    accounted.inLine.sorted.sublist InLine.received_sublist⟩
  · intro distinct value left right
    apply place_unique
    rw [show ∑ place, state.holdings place = _ from accounted.conserved]
    exact distinct
  · exact fun _ _ stepped => (accounted.linked.effect stepped).accepts

end Runs

/-- A send future is suspended behind a full buffer and dropped after its value was
promoted. Nothing is dropped with it. -/
theorem mpsc_values_once_promoted :
    ∃ state : MpscState Unit Unit Unit Nat,
      (mpscMachine Unit Unit Unit Nat 1).Reaches valuesUndisturbed state ∧
      state.received = [⟨1, 0⟩, ⟨2, 1⟩] ∧ state.droppedUnsent = [] ∧ ValuesOnce state := by
  refine exists_of_exec
    [.trySend 1, .send () 2, .pollLook () (), .pollSend (), .tryRecv, .dropSend (),
      .tryRecv]
    (by decide +kernel) fun reached => ⟨?_, ?_, mpsc_values_once reached⟩
  all_goals decide +kernel

def Move.pollsSend : Move Send Recv Waker T → Bool
  | .pollLook _ _ | .pollSend _ => true
  | _ => false

/-- One receive operation at a time, and a strong sender whenever a send future is
polled. -/
def withinContract (state : MpscState Send Recv Waker T) (move : Move Send Recv Waker T) : Prop :=
  singleConsumer state move ∧ (move.pollsSend → state.senderCount ≠ 0)

instance [DecidableEq Recv] [Fintype Recv] (state : MpscState Send Recv Waker T)
    (move : Move Send Recv Waker T) : Decidable (withinContract state move) :=
  inferInstanceAs (Decidable (_ ∧ (_ → _)))

/-- A suspended future is polled again. It looks at its value, the receiver takes the
value, and the poll then puts what is left of it into the buffer once more. -/
theorem taken_value_sent_again :
    ¬∀ state : MpscState Unit Unit Unit Nat,
      (mpscMachine Unit Unit Unit Nat 1).Reaches withinContract state → ValuesOnce state := by
  intro always
  have reached := (mpscMachine Unit Unit Unit Nat 1).reaches_exec withinContract
    [.trySend 1, .send () 2, .pollLook () (), .pollSend (), .pollLook () (), .tryRecv, .tryRecv,
      .pollSend ()] (by decide +kernel)
  have same := (always _ reached).onePlace (by decide +kernel) 2 (.store .received)
    (.store .buffer) (by decide +kernel) (by decide +kernel)
  cases same

end CoroRuntime.Mpsc
