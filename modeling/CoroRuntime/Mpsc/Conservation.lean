import CoroRuntime.Foundation.Transfer
import CoroRuntime.Mpsc.Waiters
import Mathlib.Tactic.DeriveFintype

/-! # Where the values are -/

namespace CoroRuntime.Mpsc

open Foundation
open Function (update update_of_ne update_self)
open scoped BigOperators

variable {Send Recv Waker T : Type} {state next : MpscState Send Recv Waker T}

/-- Where a value can be once it is not with its send future. -/
inductive Store
  | buffer
  | received
  | returned
  | droppedUnsent
  | discarded
  deriving DecidableEq

instance : Fintype Store :=
  .ofList [.buffer, .received, .returned, .droppedUnsent, .discarded] fun store => by
    cases store <;> simp

inductive Place (Send : Type)
  | future (id : Send)
  | store (store : Store)
  deriving DecidableEq, Fintype

def SendFuture.holding (future : SendFuture Waker T) : Multiset T :=
  if future.unresolved ∧ future.hasValue then {future.value} else 0

namespace MpscState

def stored (state : MpscState Send Recv Waker T) : Store → Multiset T
  | .buffer => state.buffer.map Entry.value
  | .received => state.received.map Entry.value
  | .returned => state.returned
  | .droppedUnsent => state.droppedUnsent
  | .discarded => state.discarded

def holdings (state : MpscState Send Recv Waker T) : Place Send → Multiset T
  | .future id => (state.send id).elim 0 SendFuture.holding
  | .store store => state.stored store

def accepted (state : MpscState Send Recv Waker T) : Multiset T :=
  state.stored .buffer + state.stored .received + state.stored .discarded

end MpscState

/-- Nothing is received from a send future that has looked at its value and not yet locked
the mutex. -/
def valuesUndisturbed (state : MpscState Send Recv Waker T) (move : Move Send Recv Waker T) :
    Prop :=
  move.receives.isSome → ∀ id ∈ state.senderWaiters.head?, ∀ future ∈ state.send id,
    future.polling = none

instance (state : MpscState Send Recv Waker T) (move : Move Send Recv Waker T) :
    Decidable (valuesUndisturbed state move) := by
  unfold valuesUndisturbed
  infer_instance

/-- A suspended future and one that is about to lock the mutex have their values. -/
structure Held (state : MpscState Send Recv Waker T) : Prop where
  waiting : ∀ id ∈ state.senderWaiters, ∀ future, state.send id = some future →
    future.hasValue = true ∧ future.unresolved = true
  polling : ∀ id future, state.send id = some future → future.polling.isSome →
    future.hasValue = true ∧ future.unresolved = true

theorem SendFuture.holding_eq {future : SendFuture Waker T}
    (held : future.hasValue = true ∧ future.unresolved = true) :
    future.holding = {future.value} := by
  simp [SendFuture.holding, held]

theorem SendFuture.unresolved_woken [DecidableEq Waker] (future : SendFuture Waker T)
    (called : Waker) :
    ({ future with status := future.status.woken called } : SendFuture Waker T).unresolved =
      future.unresolved := by
  unfold SendFuture.unresolved
  cases future.status <;> rfl

namespace Held

variable [DecidableEq Send]

variable (held : Held state)

include held

theorem update {id : Send} (send : next.send = update state.send id (some future))
    (waiters : ∀ other ∈ next.senderWaiters, other ≠ id → other ∈ state.senderWaiters)
    (own : id ∈ next.senderWaiters ∨ future.polling.isSome →
      future.hasValue = true ∧ future.unresolved = true) : Held next := by
  constructor
  · intro other member found known
    rw [send] at known
    by_cases same : other = id
    · subst same
      rw [update_self] at known
      cases known
      exact own (.inl member)
    · rw [update_of_ne same] at known
      exact held.waiting other (waiters other member same) found known
  · intro other found known polls
    rw [send] at known
    by_cases same : other = id
    · subst same
      rw [update_self] at known
      cases known
      exact own (.inr polls)
    · rw [update_of_ne same] at known
      exact held.polling other found known polls

theorem finish {id : Send} (send : next.send = Function.update state.send id (some future))
    (waiters : next.senderWaiters = state.senderWaiters) (nobody : state.senderWaiters = [])
    (idle : future.polling = none) : Held next := by
  apply held.update send (fun _ member _ => waiters ▸ member)
  rw [waiters, nobody, idle]
  rintro (waits | polls)
  · exact (List.not_mem_nil waits).elim
  · cases polls

theorem popSender (linked : Linked state) {id : Send} {future : SendFuture Waker T}
    (waiting : state.senderWaiters = id :: waiters) (idle : future.polling = none)
    (send : next.send = Function.update state.send id
      (some { future with hasValue := false, nodeWaker := none }))
    (left : next.senderWaiters = waiters) : Held next := by
  have nodup := linked.nodup
  rw [waiting] at nodup
  refine held.update send ?_ ?_
  · intro other member _
    rw [waiting]
    rw [left] at member
    exact List.mem_cons_of_mem _ member
  · rw [left]
    rintro (waits | polls)
    · exact ((List.nodup_cons.mp nodup).1 waits).elim
    · simp [idle] at polls

theorem unlinkSenders : Held state.unlinkSenders := by
  refine ⟨nofun, ?_⟩
  intro id future found polls
  simp only [MpscState.unlinkSenders] at found
  split at found
  · rcases Option.map_eq_some_iff.mp found with ⟨before, known, rfl⟩
    exact held.polling id before known polls
  · exact held.polling id future found polls

variable [DecidableEq Recv] [DecidableEq Waker]

theorem keeps (linked : Linked state) (undisturbed : valuesUndisturbed state move)
    (effect : Effect state move next) : Held next := by
  have idle : ∀ {operation id waiters future}, move.receives = some operation →
      state.senderWaiters = id :: waiters → state.send id = some future →
      future.polling = none := by
    intro operation id waiters future receives waiting found
    exact undisturbed (by rw [receives]; rfl) id (by rw [waiting]; rfl) future found
  cases effect with
  | counts | closed | tryReturned | tryDelivered | tryBuffered | recvCreated | dropRecv
  | activated | inactiveDropped | destroyed => exact ⟨held.waiting, held.polling⟩
  | @sendCreated _ id _ unused =>
    refine held.update rfl (fun _ member _ => member) ?_
    rintro (waits | polls)
    · rcases linked.alive id waits with ⟨future, found⟩
      rw [unused] at found
      cases found
    · cases polls
  | looked found unresolved has =>
    exact held.update rfl (fun _ member _ => member) fun _ => ⟨has, unresolved⟩
  | @lookedDone _ id future found unresolved taken =>
    refine held.update rfl (fun _ member _ => member) ?_
    rintro (waits | polls)
    · have has := (held.waiting id waits future found).1
      rw [taken] at has
      cases has
    · have has := (held.polling id future found polls).1
      rw [taken] at has
      cases has
  | returned found polling noReceiver nobody => exact held.finish rfl rfl nobody rfl
  | delivered found polling waits drained nobody => exact held.finish rfl rfl nobody rfl
  | buffered found polling nowaits nobody => exact held.finish rfl rfl nobody rfl
  | @suspended _ id future _ found polling =>
    refine held.update rfl ?_ fun _ => ⟨(held.polling id future found polling).1, rfl⟩
    intro other member different
    rcases List.mem_append.mp member with kept | last
    · exact List.mem_of_mem_erase kept
    · exact (different (List.mem_singleton.mp last)).elim
  | @dropSend _ id _ found =>
    constructor
    · intro other member future known
      have different : other ≠ id := by
        intro same
        subst same
        exact linked.nodup.not_mem_erase member
      simp only [update_of_ne different] at known
      exact held.waiting other (List.mem_of_mem_erase member) future known
    · intro other future known polls
      by_cases same : other = id
      · subst same
        simp at known
      · simp only [update_of_ne same] at known
        exact held.polling other future known polls
  | @popped _ operation | @ended _ operation =>
    rcases operation with _ | (_ | _) <;> exact ⟨held.waiting, held.polling⟩
  | @promoted _ operation _ _ _ _ _ receives _ waiting found
  | @taken _ operation _ _ _ receives _ waiting found =>
    have rests := idle receives waiting found
    rcases operation with _ | (_ | _) <;> exact held.popSender linked waiting rests rfl rfl
  | @registered _ operation => cases operation <;> exact ⟨held.waiting, held.polling⟩
  | deactivated => exact Held.unlinkSenders ⟨held.waiting, held.polling⟩
  | receiverDropped => exact Held.unlinkSenders ⟨held.waiting, held.polling⟩
  | woken =>
    constructor
    · intro id member future found
      rcases Option.map_eq_some_iff.mp found with ⟨before, known, rfl⟩
      rw [SendFuture.unresolved_woken]
      exact held.waiting id member before known
    · intro id future found polls
      rcases Option.map_eq_some_iff.mp found with ⟨before, known, rfl⟩
      rw [SendFuture.unresolved_woken]
      exact held.polling id before known polls

end Held

/-! ## Transactions -/

namespace MpscState

theorem still (send : ∀ id, (next.send id).elim 0 SendFuture.holding =
      (state.send id).elim 0 SendFuture.holding) (stored : next.stored = state.stored) :
    Transaction state.holdings next.holdings 0 := by
  apply Transaction.still
  funext place
  cases place with
  | future id => exact send id
  | store store => exact congrFun stored store

theorem callWaker_still [DecidableEq Waker] (called : Waker) :
    Transaction state.holdings (state.callWaker called).holdings 0 := by
  refine still ?_ rfl
  intro id
  simp only [callWaker]
  cases state.send id with
  | none => rfl
  | some future =>
    simp only [Option.map_some, Option.elim_some, SendFuture.holding,
      SendFuture.unresolved_woken]

theorem supplyStore (store : Store) (value : T) (send : next.send = state.send)
    (stored : next.stored =
      update state.stored store (state.stored store + {value})) :
    Transaction state.holdings next.holdings {value} := by
  apply Transaction.supply (M := Multiset T) (.store store) {value}
  refine ⟨by simp [holdings, stored], ?_⟩
  intro place different
  cases place with
  | future id => simp only [holdings, send]
  | store other =>
    have apart : other ≠ store := fun same => different (congrArg Place.store same)
    simp only [holdings, stored, update_of_ne apart]

theorem moveStore (source target : Store) (apart : source ≠ target) (left moved : Multiset T)
    (send : next.send = state.send) (taken : state.stored source = left + moved)
    (stored : next.stored = update (update state.stored source left) target
      (state.stored target + moved)) :
    Transaction state.holdings next.holdings 0 := by
  apply Transaction.transfer (M := Multiset T) (.store source) (.store target) moved
  refine ⟨fun same => apart (Place.store.inj same), ?_, ?_, ?_⟩
  · simpa [holdings, stored, apart] using taken
  · simp [holdings, stored]
  · intro place notSource notTarget
    cases place with
    | future id => simp only [holdings, send]
    | store other =>
      have fromSource : other ≠ source := fun same => notSource (congrArg Place.store same)
      have fromTarget : other ≠ target := fun same => notTarget (congrArg Place.store same)
      simp only [holdings, stored, update_of_ne fromTarget,
        update_of_ne fromSource]

variable [DecidableEq Send]

theorem still_update {id : Send} (found : state.send id = some before)
    (send : next.send = update state.send id (some after)) (same : after.holding = before.holding)
    (stored : next.stored = state.stored) : Transaction state.holdings next.holdings 0 := by
  refine still ?_ stored
  intro other
  rw [send]
  by_cases equal : other = id
  · subst equal
    rw [update_self, found]
    exact same
  · rw [update_of_ne equal]

theorem supplyFuture {id : Send} (future : SendFuture Waker T) (unused : state.send id = none)
    (held : future.hasValue = true ∧ future.unresolved = true)
    (send : next.send = update state.send id (some future))
    (stored : next.stored = state.stored) :
    Transaction state.holdings next.holdings {future.value} := by
  refine .supply (.future id) _ ⟨?_, ?_⟩
  · simp [holdings, send, unused, SendFuture.holding_eq held]
  · intro place different
    cases place with
    | future other =>
      have apart : other ≠ id := fun same => different (congrArg Place.future same)
      simp only [holdings, send, update_of_ne apart]
    | store store => exact congrFun stored store

theorem moveFuture {id : Send} (store : Store) (found : state.send id = some future)
    (held : future.hasValue = true ∧ future.unresolved = true)
    (send : next.send = update state.send id after) (empty : after.elim 0 SendFuture.holding = 0)
    (stored : next.stored =
      update state.stored store (state.stored store + {future.value})) :
    Transaction state.holdings next.holdings 0 := by
  refine .transfer (.future id) (.store store) {future.value} ⟨nofun, ?_, ?_, ?_⟩
  · simp only [holdings, send, update_self, empty, found, zero_add]
    exact SendFuture.holding_eq held
  · simp [holdings, stored]
  · intro place notSource notTarget
    cases place with
    | future other =>
      have apart : other ≠ id := fun same => notSource (congrArg Place.future same)
      simp only [holdings, send, update_of_ne apart]
    | store other =>
      have apart : other ≠ store := fun same => notTarget (congrArg Place.store same)
      simp only [holdings, stored, update_of_ne apart]

theorem unlinkSenders_still : Transaction state.holdings state.unlinkSenders.holdings 0 := by
  refine still ?_ rfl
  intro id
  simp only [unlinkSenders]
  split
  · cases state.send id <;> rfl
  · rfl

end MpscState

def Conserved [Fintype Send] (state : MpscState Send Recv Waker T) : Prop :=
  ∑ place, state.holdings place = (state.passed : Multiset T)

namespace Conserved

variable [Fintype Send]

variable (conserved : Conserved state)

include conserved

theorem move (transaction : Transaction state.holdings next.holdings 0)
    (passed : next.passed = state.passed) : Conserved next := by
  unfold Conserved
  rw [transaction.sum_eq, add_zero, passed]
  exact conserved

theorem supply (transaction : Transaction state.holdings next.holdings {value})
    (passed : next.passed = state.passed ++ [value]) : Conserved next := by
  unfold Conserved
  rw [transaction.sum_eq, conserved, passed, ← Multiset.coe_add]
  rfl

theorem popFront (front : state.buffer = entry :: rest) :
    Conserved { state with buffer := rest, received := state.received ++ [entry] } := by
  refine conserved.move ?_ rfl
  refine MpscState.moveStore .buffer .received nofun
    (rest.map Entry.value : List T) {entry.value} rfl ?_ ?_
  · simp only [MpscState.stored, front, List.map_cons]
    rw [← Multiset.cons_coe, ← Multiset.singleton_add, add_comm]
  · funext store
    cases store <;> simp [MpscState.stored, ← Multiset.coe_add]

theorem discard :
    Conserved { state with
      buffer := []
      discarded := state.discarded ++ state.buffer.map Entry.value } := by
  refine conserved.move ?_ rfl
  refine MpscState.moveStore .buffer .discarded nofun
    0 (state.buffer.map Entry.value : List T) rfl ?_ ?_
  · simp [MpscState.stored]
  · funext store
    cases store <;> simp [MpscState.stored, ← Multiset.coe_add]

variable [DecidableEq Recv]

theorem resolve (operation : Option (Operation Recv)) : Conserved (state.resolve operation) := by
  rcases operation with _ | (_ | _) <;> exact conserved

variable [DecidableEq Send] [DecidableEq Waker]

theorem keeps (held : Held state)
    {move : Move Send Recv Waker T} (effect : Effect state move next) : Conserved next := by
  cases effect with
  | counts | closed | dropRecv | activated | inactiveDropped | recvCreated => exact conserved
  | @registered _ operation => cases operation <;> exact conserved
  | @ended _ operation => exact conserved.resolve operation
  | @sendCreated _ id value unused =>
    refine conserved.supply ?_ rfl
    exact MpscState.supplyFuture ⟨value, true, none, 0, none, .created⟩ unused ⟨rfl, rfl⟩ rfl
      rfl
  | looked found =>
    refine conserved.move ?_ rfl
    exact MpscState.still_update found rfl rfl rfl
  | lookedDone found unresolved taken =>
    refine conserved.move ?_ rfl
    refine MpscState.still_update found rfl ?_ rfl
    simp [SendFuture.holding, taken]
  | returned found polling =>
    refine conserved.move ?_ rfl
    apply MpscState.moveFuture .returned found (held.polling _ _ found polling) rfl rfl
    funext store
    cases store <;> simp [MpscState.stored, MpscState.setSend, ← Multiset.coe_add]
  | delivered found polling waits drained =>
    refine conserved.move ?_ rfl
    apply MpscState.moveFuture .buffer found (held.polling _ _ found polling) rfl rfl
    funext store
    cases store <;> simp [MpscState.stored, MpscState.setSend, drained]
  | buffered found polling =>
    refine conserved.move ?_ rfl
    apply MpscState.moveFuture .buffer found (held.polling _ _ found polling) rfl rfl
    funext store
    cases store <;> simp [MpscState.stored, MpscState.setSend, ← Multiset.coe_add]
  | @suspended _ id future waker found polling =>
    refine conserved.move ?_ rfl
    have has := held.polling id future found polling
    refine MpscState.still_update found rfl ?_ rfl
    rw [SendFuture.holding_eq has]
    simp [SendFuture.holding, SendFuture.unresolved, has.1]
  | @dropSend _ id future found =>
    refine conserved.move ?_ rfl
    by_cases has : future.unresolved ∧ future.hasValue
    · rw [if_pos has]
      refine MpscState.moveFuture .droppedUnsent found ⟨has.2, has.1⟩ rfl rfl ?_
      funext store
      cases store <;> simp [MpscState.stored, ← Multiset.coe_add]
    · rw [if_neg has, List.append_nil]
      refine MpscState.still ?_ rfl
      intro other
      by_cases same : other = id
      · subst same
        simp [found, SendFuture.holding, has]
      · simp [same]
  | @tryReturned _ value =>
    refine conserved.supply ?_ rfl
    refine MpscState.supplyStore .returned value rfl ?_
    funext store
    cases store <;> simp [MpscState.stored, ← Multiset.coe_add]
  | @tryDelivered _ value _ waits drained =>
    refine conserved.supply ?_ rfl
    refine MpscState.supplyStore .buffer value rfl ?_
    funext store
    cases store <;> simp [MpscState.stored, drained]
  | @tryBuffered _ value =>
    refine conserved.supply ?_ rfl
    refine MpscState.supplyStore .buffer value rfl ?_
    funext store
    cases store <;> simp [MpscState.stored, ← Multiset.coe_add]
  | popped receives front =>
    refine Conserved.resolve ?_ _
    exact conserved.popFront front
  | @promoted _ _ _ _ id _ future receives front waiting found =>
    refine Conserved.resolve ?_ _
    have has := held.waiting id (by rw [waiting]; simp) future found
    refine (conserved.popFront front).move ?_ rfl
    refine MpscState.moveFuture .buffer found has rfl ?_ ?_
    · simp [SendFuture.holding]
    · funext store
      cases store <;> simp [MpscState.stored, MpscState.setSend, ← Multiset.coe_add]
  | @taken _ _ id _ future receives drained waiting found =>
    refine Conserved.resolve ?_ _
    have has := held.waiting id (by rw [waiting]; simp) future found
    refine conserved.move ?_ rfl
    refine MpscState.moveFuture .received found has rfl ?_ ?_
    · simp [SendFuture.holding]
    · funext store
      cases store <;> simp [MpscState.stored, MpscState.setSend, ← Multiset.coe_add]
  | deactivated => exact Conserved.move conserved.discard MpscState.unlinkSenders_still rfl
  | receiverDropped => exact Conserved.move conserved MpscState.unlinkSenders_still rfl
  | destroyed => exact conserved.discard
  | woken => exact Conserved.move conserved (MpscState.callWaker_still _) rfl

end Conserved

end CoroRuntime.Mpsc
