import CoroRuntime.Mpsc.ReceiverWaiter
import Mathlib.Data.Fintype.Sum
import Mathlib.Tactic.DeriveFintype

/-! # No wake-up is lost -/

namespace CoroRuntime.Mpsc

open Foundation

variable {Send Recv Waker T : Type} {state next : MpscState Send Recv Waker T}

deriving instance Fintype for Operation

/-- One receive operation is outstanding at a time, and none of a `recv()` future when the
receiver is deactivated. -/
def singleConsumer (state : MpscState Send Recv Waker T) : Move Send Recv Waker T → Prop
  | .pollRecv id _ => ∀ other, state.outstanding other → other = .future id
  | .pollNext _ => ∀ other, state.outstanding other → other = .stream
  | .deactivate => ∀ id, ¬state.outstanding (.future id)
  | _ => True

instance [DecidableEq Recv] [Fintype Recv] (state : MpscState Send Recv Waker T)
    (move : Move Send Recv Waker T) : Decidable (singleConsumer state move) := by
  cases move <;> unfold singleConsumer <;> infer_instance

/-- Besides, no `recv()` future is destroyed while another operation is outstanding. -/
def undisturbedReceive (state : MpscState Send Recv Waker T) (move : Move Send Recv Waker T) :
    Prop :=
  singleConsumer state move ∧
  match move with
  | .dropRecv id => ∀ other, state.outstanding other → other = .future id
  | _ => True

instance [DecidableEq Recv] [Fintype Recv] (state : MpscState Send Recv Waker T)
    (move : Move Send Recv Waker T) : Decidable (undisturbedReceive state move) := by
  cases move <;> unfold undisturbedReceive <;> infer_instance

/-- A send future that waits and has not been woken is linked with its waker, or that is
about to be called. -/
def SendsAttended (state : MpscState Send Recv Waker T) : Prop :=
  ∀ id future waker, state.send id = some future → future.status = .pending waker false →
    (id ∈ state.senderWaiters ∧ future.nodeWaker = some waker) ∨ some waker ∈ state.waking

/-- A receive operation that waits and has not been woken has its waker in the slot, or
that is about to be called. -/
def ReceivesAttended (state : MpscState Send Recv Waker T) : Prop :=
  ∀ operation waker, state.status operation = some (.pending waker false) →
    (∃ node, state.receiverWaiter = some node ∧ node.waker = some waker) ∨
      some waker ∈ state.waking

namespace SendsAttended

variable (attended : SendsAttended state)

include attended

/-- The futures and the waiters stay, and no waker in flight is forgotten. -/
theorem frame (send : next.send = state.send) (waiters : next.senderWaiters = state.senderWaiters)
    (called : state.waking ⊆ next.waking) : SendsAttended next := by
  intro id future waker found pending
  rw [send] at found
  rw [waiters]
  rcases attended id future waker found pending with waits | soon
  · exact .inl waits
  · exact .inr (called soon)

theorem callWaker [DecidableEq Waker] (called : Waker) :
    SendsAttended
      ({ state with waking := state.waking.erase (some called) }.callWaker called) := by
  intro id future waker found pending
  rcases Option.map_eq_some_iff.mp found with ⟨before, member, rfl⟩
  have unwoken : before.status = .pending waker false ∧ waker ≠ called := by
    cases status : before.status with
    | pending last woken =>
      simp only [status, SendStatus.woken, SendStatus.pending.injEq, Bool.or_eq_false_iff,
        decide_eq_false_iff_not] at pending
      rcases pending with ⟨rfl, rfl, different⟩
      exact ⟨rfl, different⟩
    | _ =>
      rw [status] at pending
      exact nomatch pending
  rcases attended id before waker member unwoken.1 with waits | soon
  · exact .inl waits
  · refine .inr ((List.mem_erase_of_ne ?_).mpr soon)
    simpa using unwoken.2

variable [DecidableEq Send]

theorem update {id : Send} (send : next.send = Function.update state.send id (some future))
    (linked : ∀ other ≠ id, other ∈ state.senderWaiters → other ∈ next.senderWaiters)
    (called : state.waking ⊆ next.waking)
    (own : ∀ waker, future.status = .pending waker false →
      (id ∈ next.senderWaiters ∧ future.nodeWaker = some waker) ∨ some waker ∈ next.waking) :
    SendsAttended next := by
  intro other found waker member pending
  rw [send] at member
  by_cases same : other = id
  · subst same
    rw [Function.update_self] at member
    cases member
    exact own waker pending
  · rw [Function.update_of_ne same] at member
    rcases attended other found waker member pending with ⟨waits, armed⟩ | soon
    · exact .inl ⟨linked other same waits, armed⟩
    · exact .inr (called soon)

theorem popSender {id : Send} (waiting : state.senderWaiters = id :: waiters)
    (found : state.send id = some future)
    (send : next.send = Function.update state.send id
      (some { future with hasValue := false, nodeWaker := none }))
    (left : next.senderWaiters = waiters)
    (waking : next.waking = state.waking ++ future.nodeWaker.toList.map some) :
    SendsAttended next := by
  refine attended.update send ?_ ?_ ?_
  · intro other different member
    rw [waiting] at member
    rw [left]
    exact (List.mem_cons.mp member).resolve_left different
  · rw [waking]
    exact List.subset_append_left _ _
  · intro waker pending
    rw [waking]
    rcases attended id future waker found pending with ⟨_, armed⟩ | soon
    · exact .inr (List.mem_append_right _ (by simp [armed]))
    · exact .inr (List.mem_append_left _ soon)

theorem unlinkSenders [DecidableEq Recv] : SendsAttended state.unlinkSenders := by
  intro id future waker found pending
  have before : ∃ before, state.send id = some before ∧ before.status = .pending waker false := by
    simp only [MpscState.unlinkSenders] at found
    split at found
    · rcases Option.map_eq_some_iff.mp found with ⟨before, member, rfl⟩
      exact ⟨before, member, pending⟩
    · exact ⟨future, found, pending⟩
  rcases before with ⟨before, member, waiting⟩
  rcases attended id before waker member waiting with ⟨waits, armed⟩ | soon
  · refine .inr (List.mem_append_right _ ?_)
    rw [List.mem_map]
    refine ⟨waker, List.mem_filterMap.mpr ⟨id, waits, ?_⟩, rfl⟩
    simp [member, armed]
  · exact .inr (List.mem_append_left _ soon)

variable [DecidableEq Recv] [DecidableEq Waker]

theorem keeps (effect : Effect state move next) : SendsAttended next := by
  cases effect with
  | counts | tryReturned | tryBuffered | recvCreated | dropRecv | activated
  | inactiveDropped | destroyed => exact attended
  | closed | tryDelivered => exact attended.frame rfl rfl (List.subset_append_left _ _)
  | sendCreated | lookedDone | returned | buffered =>
    exact attended.update rfl (fun _ _ => id) (List.Subset.refl _) nofun
  | delivered =>
    exact attended.update rfl (fun _ _ => id) (List.subset_append_left _ _) nofun
  | @looked _ id future _ found =>
    refine attended.update rfl (fun _ _ member => member) (List.Subset.refl _) ?_
    intro waker pending
    exact attended id future waker found pending
  | suspended found =>
    refine attended.update rfl ?_ (List.Subset.refl _) ?_
    · intro other different member
      exact List.mem_append_left _ ((List.mem_erase_of_ne different).mpr member)
    · rintro _ ⟨⟩
      exact .inl ⟨List.mem_append_right _ (List.mem_singleton_self _), rfl⟩
  | @dropSend _ id _ found =>
    intro other future waker member pending
    by_cases same : other = id
    · subst same
      simp at member
    · simp only [Function.update_of_ne same] at member
      rcases attended other future waker member pending with ⟨waits, armed⟩ | soon
      · exact .inl ⟨(List.mem_erase_of_ne same).mpr waits, armed⟩
      · exact .inr soon
  | @popped _ operation | @ended _ operation =>
    rcases operation with _ | (_ | _) <;> exact attended
  | @promoted _ operation _ _ _ _ _ _ _ waiting found
  | @taken _ operation _ _ _ _ _ waiting found =>
    rcases operation with _ | (_ | _) <;> exact attended.popSender waiting found rfl rfl rfl
  | @registered _ operation => cases operation <;> exact attended
  | deactivated => exact SendsAttended.unlinkSenders attended
  | receiverDropped => exact SendsAttended.unlinkSenders attended
  | woken => exact attended.callWaker _

end SendsAttended

namespace ReceivesAttended

variable (attended : ReceivesAttended state)

include attended

/-- The operations stay, and so do the slot and the wakers in flight. -/
theorem frame (status : next.status = state.status)
    (slot : next.receiverWaiter = state.receiverWaiter)
    (called : state.waking ⊆ next.waking) : ReceivesAttended next := by
  intro operation waker pending
  rw [status] at pending
  rw [slot]
  rcases attended operation waker pending with waits | soon
  · exact .inl waits
  · exact .inr (called soon)

theorem deliver (status : next.status = state.status)
    (called : state.waking ⊆ next.waking)
    (slot : ∀ node waker, state.receiverWaiter = some node → node.waker = some waker →
      some waker ∈ next.waking) : ReceivesAttended next := by
  intro operation waker pending
  rw [status] at pending
  rcases attended operation waker pending with ⟨node, waits, armed⟩ | soon
  · exact .inr (slot node waker waits armed)
  · exact .inr (called soon)

omit attended in
theorem callWaker [DecidableEq Waker] (attended : ReceivesAttended state) (called : Waker) :
    ReceivesAttended
      ({ state with waking := state.waking.erase (some called) }.callWaker called) := by
  intro operation waker pending
  rw [MpscState.status_callWaker] at pending
  rcases Option.map_eq_some_iff.mp pending with ⟨before, known, after⟩
  have unwoken : before = .pending waker false ∧ waker ≠ called := by
    cases before with
    | pending last woken =>
      simp only [RecvStatus.woken, RecvStatus.pending.injEq, Bool.or_eq_false_iff,
        decide_eq_false_iff_not] at after
      rcases after with ⟨rfl, rfl, different⟩
      exact ⟨rfl, different⟩
    | _ => exact nomatch after
  rcases attended operation waker (by rw [← unwoken.1]; exact known) with waits | soon
  · exact .inl waits
  · refine .inr ((List.mem_erase_of_ne ?_).mpr soon)
    simpa using unwoken.2

variable [DecidableEq Recv]

theorem resolve (operation : Option (Operation Recv)) :
    ReceivesAttended (state.resolve operation) := by
  cases operation with
  | none => exact attended
  | some operation =>
    intro other waker pending
    rw [MpscState.resolve, MpscState.status_setStatus] at pending
    split at pending
    · cases pending
    · rcases attended other waker pending with waits | soon
      · refine .inl ?_
        rwa [MpscState.resolve, MpscState.setStatus_receiverWaiter]
      · refine .inr ?_
        cases operation <;> exact soon

variable [DecidableEq Send] [DecidableEq Waker]

theorem keeps (undisturbed : undisturbedReceive state move) (effect : Effect state move next) :
    ReceivesAttended next := by
  have idle : ∀ {operation waker}, state.status operation = some (.pending waker false) →
      state.outstanding operation = true := by
    intro operation waker pending
    simp [MpscState.outstanding, pending]
  cases effect with
  | counts | sendCreated | looked | lookedDone | returned | buffered | suspended | dropSend
  | tryReturned | tryBuffered | activated | inactiveDropped | destroyed => exact attended
  | closed =>
    refine attended.deliver rfl (List.subset_append_left _ _) ?_
    intro node waker waits armed
    exact List.mem_append_right _ (by simp [waits, armed])
  | delivered found polling waits | tryDelivered waits =>
    refine attended.deliver rfl (List.subset_append_left _ _) ?_
    intro node waker same armed
    rw [waits] at same
    cases same
    exact List.mem_append_right _ (by simp [armed])
  | recvCreated =>
    intro other waker pending
    rw [MpscState.status_setStatus] at pending
    split at pending
    · cases pending
    · exact attended other waker pending
  | popped =>
    refine ReceivesAttended.resolve ?_ _
    exact attended
  | promoted | taken =>
    refine ReceivesAttended.resolve ?_ _
    exact attended.frame rfl rfl (List.subset_append_left _ _)
  | ended => exact attended.resolve _
  | @registered move operation waker receives active drained nobody remaining =>
    intro other last pending
    rw [MpscState.status_setStatus] at pending
    split at pending
    · cases pending
      refine .inl ⟨_, MpscState.setStatus_receiverWaiter .., rfl⟩
    · rename_i different
      -- another operation would be outstanding
      have alone := undisturbed.1
      have busy := idle pending
      cases move <;> cases receives
      · exact (different (alone other busy)).elim
      · exact (different (alone other busy)).elim
  | @dropRecv id =>
    intro other waker pending
    have busy : state.status other = some (.pending waker false) ∧ other ≠ .future id := by
      cases other with
      | stream => exact ⟨pending, by simp⟩
      | future other =>
        by_cases same : other = id
        · subst same
          simp [MpscState.status] at pending
        · simpa [MpscState.status, same] using pending
    exact (busy.2 (undisturbed.2 other (idle busy.1))).elim
  | deactivated =>
    intro other waker pending
    cases other with
    | stream => cases pending
    | future id => exact (undisturbed.1 id (idle pending)).elim
  | receiverDropped =>
    intro other waker pending
    cases other with
    | stream => cases pending
    | future id =>
      rcases attended (.future id) waker pending with waits | soon
      · exact .inl waits
      · exact .inr (List.mem_append_left _ soon)
  | woken => exact attended.callWaker _

end ReceivesAttended

/-- With no wake in flight, an operation that waits unwoken has nothing to receive, and a
send future that waits unwoken has nowhere to put its value. -/
structure WakeupsKept [DecidableEq Send] (state : MpscState Send Recv Waker T) : Prop where
  receive : state.waking = [] → ∀ operation waker,
    state.status operation = some (.pending waker false) →
    state.buffer = [] ∧ state.senderWaiters = [] ∧ 0 < state.senderCount
  send : state.waking = [] → ∀ id future waker, state.send id = some future →
    future.status = .pending waker false →
    state.senderWaiters.count id = 1 ∧ state.receiver = .active ∧
      state.receiverWaiter = none ∧ state.capacity ≤ state.buffer.length

section Runs

variable [DecidableEq Send]

theorem wakeupsKept (linked : Linked state) (registered : Registered state)
    (sends : SendsAttended state) (receives : ReceivesAttended state) : WakeupsKept state where
  receive := by
    intro quiet operation waker pending
    rcases receives operation waker pending with ⟨node, waits, armed⟩ | soon
    · rcases linked.empty node waits with ⟨drained, nobody⟩
      have remaining := (registered.armed node waits).mp (by rw [armed]; rfl)
      exact ⟨drained, nobody, Nat.pos_of_ne_zero remaining⟩
    · rw [quiet] at soon
      exact (List.not_mem_nil soon).elim
  send := by
    intro quiet id future waker found pending
    rcases sends id future waker found pending with ⟨waits, _⟩ | soon
    · rcases linked.full (List.ne_nil_of_mem waits) with ⟨active, full, nowaits⟩
      exact ⟨List.count_eq_one_of_mem linked.nodup waits, active, nowaits, full⟩
    · rw [quiet] at soon
      exact (List.not_mem_nil soon).elim

variable [DecidableEq Recv] [DecidableEq Waker]

theorem attended_of_reaches
    (reached : (mpscMachine Send Recv Waker T capacity).Reaches undisturbedReceive state) :
    (Linked state ∧ Registered state) ∧ SendsAttended state ∧ ReceivesAttended state := by
  refine reached.invariant (fun state => (Linked state ∧ Registered state) ∧
      SendsAttended state ∧ ReceivesAttended state) ?_ ?_
  · rintro _ _ _ ⟨⟨linked, registered⟩, sends, receives⟩ undisturbed stepped
    have effect := linked.effect stepped
    exact ⟨⟨linked.keeps effect, registered.keeps linked effect⟩, sends.keeps effect,
      receives.keeps undisturbed effect⟩
  · refine ⟨⟨⟨List.nodup_nil, nofun, (absurd rfl ·), nofun⟩, registered_of_empty rfl⟩, nofun, ?_⟩
    rintro (_ | _) _ pending <;> cases pending

/-- The channel loses no wake-up of its one receiver and of its senders. -/
theorem mpsc_wakeups_kept {capacity : Nat}
    (reached : (mpscMachine Send Recv Waker T capacity).Reaches undisturbedReceive state) :
    WakeupsKept state := by
  have kept := attended_of_reaches reached
  exact wakeupsKept kept.1.1 kept.1.2 kept.2.1 kept.2.2

end Runs

/-- A full channel: one value in the buffer, one send future waiting behind it, and a
receiver that has just been woken. -/
theorem mpsc_wakeups_kept_full :
    ∃ state : MpscState Unit Unit Unit Nat,
      (mpscMachine Unit Unit Unit Nat 1).Reaches undisturbedReceive state ∧
      state.waking = [] ∧ state.senderWaiters = [()] ∧ WakeupsKept state := by
  refine exists_of_exec
    [.recv (), .pollRecv () (), .trySend 7, .wake (), .send () 8, .pollLook () (),
      .pollSend ()]
    (by decide +kernel) fun reached => ⟨?_, ?_, mpsc_wakeups_kept reached⟩
  all_goals decide +kernel

/-- A `recv()` future that has resolved is destroyed while the next one waits. It empties
the slot of the other, and the value sent then wakes nobody. -/
theorem resolved_recv_drops_waker :
    ¬∀ state : MpscState Unit Bool Unit Nat,
      (mpscMachine Unit Bool Unit Nat 1).Reaches singleConsumer state → WakeupsKept state := by
  intro always
  have reached := (mpscMachine Unit Bool Unit Nat 1).reaches_exec singleConsumer
    [.trySend 7, .recv false, .pollRecv false (), .recv true, .pollRecv true (), .dropRecv false,
      .trySend 8] (by decide +kernel)
  have drained := ((always _ reached).receive (by decide +kernel) (.future true) () rfl).1
  exact absurd drained (by decide +kernel)

end CoroRuntime.Mpsc
