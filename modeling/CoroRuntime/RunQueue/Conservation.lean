import CoroRuntime.Foundation.Transfer
import CoroRuntime.RunQueue.Order
import Mathlib.Tactic.DeriveFintype

/-! # The run queues as bags

The places a task can be in, and that each move of the queues is one transaction
between them. This is the sense in which the queues are linearizable: a push takes
effect at its tail store, a `pop` and a steal at their exchange.
-/

namespace CoroRuntime.RunQueue

open Foundation
open Function (update update_self update_of_ne)
open scoped BigOperators

variable {Worker T : Type}

inductive Place (Worker : Type)
  | ring (owner : Worker)
  | party (worker : Worker)
  | returned
  | injection
  deriving DecidableEq, Fintype

/-- The tasks that a worker holds in the middle of an operation: in a local, or in
slots that only it may touch. -/
def Activity.inTransit (ring : Worker → LocalRunQueueInner T) (worker : Worker) :
    Activity Worker T → Multiset T
  | .pushBackLoadTail task | .pushBackLoadHead task _ | .pushLoadHead task
  | .pushLoadTail task _ | .overflowSingle task | .overflowClaim task _ _
  | .finishWrite task _ | .returning task => {task}
  | .overflowReexpose task head _ =>
    {task} + window (ring worker).buffer head.toNat localQueueCapacity
  | .overflowMove task head batch =>
    {task} + batch + window (ring worker).buffer (head.toNat + (numTaken + batch.length))
      (numTaken - batch.length)
  | .overflowBatch batch => batch
  | .finishStore tail => {(ring worker).read tail}
  | .popMove real => {(ring worker).read real}
  | .stealMove victim dstTail _ first n i =>
    window (ring victim).buffer (first.toNat + i) (n - i) +
      window (ring worker).buffer dstTail.toNat i
  | .stealRelease _ dstTail _ n | .stealTake dstTail n =>
    window (ring worker).buffer dstTail.toNat n
  | .stealPublish dstTail n ret => window (ring worker).buffer dstTail.toNat n + {ret}
  | .idle | .popLoadHead | .popLoadTail _ | .popClaim _ | .stealLoadDstTail _
  | .stealLoadDstHead _ _ | .stealLoadHead _ _ | .stealLoadTail _ _ _ _
  | .stealClaim _ _ _ _ _ | .assertFailed => 0

def QueueState.holdings (state : QueueState Worker T) : Place Worker → Multiset T
  | .ring owner => (state.ring owner).live
  | .party worker => (state.activity worker).inTransit state.ring worker
  | .returned => state.returned
  | .injection => state.injection

namespace LocalRunQueueInner

variable {ring : LocalRunQueueInner T}

theorem live_takes (steal : Nat) (within : ring.realPos + count ≤ ring.tailPos) :
    ring.live = (ring.moveHead steal (ring.realPos + count)).live +
      window ring.buffer ring.realPos count := by
  have split : ring.tailPos - ring.realPos = count + (ring.tailPos - (ring.realPos + count)) := by
    omega
  unfold live
  rw [split, window_append, add_comm]
  rfl

theorem live_puts (real_le : ring.realPos ≤ ring.tailPos) :
    (ring.moveTail (ring.tailPos + count)).live =
      ring.live + window ring.buffer ring.tailPos count := by
  have split : ring.tailPos + count - ring.realPos = ring.tailPos - ring.realPos + count := by
    omega
  change window ring.buffer ring.realPos (ring.tailPos + count - ring.realPos) = _
  rw [split, window_append, Nat.add_sub_cancel' real_le]
  rfl

@[simp] theorem read_index (ring : LocalRunQueueInner T) (position : Nat) :
    ring.read (index position) = ring.buffer (slot localQueueCapacity position) := by
  rw [read, bufferIndex_index]

theorem write_index (ring : LocalRunQueueInner T) (position : Nat) (task : T) :
    (ring.write (index position) task).buffer =
      update ring.buffer (slot localQueueCapacity position) task := by
  rw [write, bufferIndex_index]

end LocalRunQueueInner

theorem window_index_zero {buffer : Fin localQueueCapacity → T} (position length : Nat) :
    window buffer (index position).toNat length = window buffer position length :=
  window_index position 0 length

/-- What a worker holds depends only on the slots it may touch. -/
theorem Activity.inTransit_congr {activity : Activity Worker T}
    (own : (after worker).buffer = (ring worker).buffer) (claimed : ∀ victim dstTail prev first n i,
      activity = .stealMove victim dstTail prev first n i →
      window (after victim).buffer (first.toNat + i) (n - i) =
        window (ring victim).buffer (first.toNat + i) (n - i)) :
    activity.inTransit after worker = activity.inTransit ring worker := by
  cases activity with
  | stealMove victim dstTail prev first n i =>
    simp only [inTransit, own]
    rw [claimed victim dstTail prev first n i rfl]
  | _ => simp only [inTransit, LocalRunQueueInner.read, own]

namespace QueueState

section Places

variable [DecidableEq Worker] {state : QueueState Worker T} {worker owner : Worker}
  {changed : LocalRunQueueInner T} {after : Activity Worker T}

section

variable (buffer : changed.buffer = (state.ring owner).buffer)

include buffer

theorem inTransit_setRing (activity : Activity Worker T) (other : Worker) :
    activity.inTransit (update state.ring owner changed) other =
      activity.inTransit state.ring other := by
  have same : ∀ any, (update state.ring owner changed any).buffer =
      (state.ring any).buffer := by
    intro any
    by_cases equal : any = owner
    · subst equal
      simpa using buffer
    · rw [update_of_ne equal]
  exact Activity.inTransit_congr (same other) fun victim _ _ _ _ _ _ => by rw [same victim]

omit buffer in
theorem goto_still (located : state.activity worker = now)
    (same : after.inTransit state.ring worker = now.inTransit state.ring worker) :
    Transaction state.holdings (state.goto worker after).holdings 0 := by
  subst located
  apply Transaction.still
  funext place
  cases place with
  | party other =>
    by_cases equal : other = worker
    · subst equal
      simpa [holdings, goto] using same
    · simp [holdings, goto, equal]
  | _ => rfl

theorem kept_elsewhere
    (place : Place Worker) (notRing : place ≠ .ring owner) (notParty : place ≠ .party worker) :
    ((state.setRing owner changed).goto worker after).holdings place = state.holdings place := by
  cases place with
  | ring other =>
    have different : other ≠ owner := fun equal => notRing (by rw [equal])
    simp [holdings, goto, setRing, different]
  | party other =>
    have different : other ≠ worker := fun equal => notParty (by rw [equal])
    simpa [holdings, goto, setRing, different] using inTransit_setRing buffer _ other
  | _ => rfl

theorem takes (taken : (state.ring owner).live = changed.live + moved)
    (held : after.inTransit state.ring worker =
      (state.activity worker).inTransit state.ring worker + moved) :
    Transaction state.holdings ((state.setRing owner changed).goto worker after).holdings 0 := by
  refine .transfer (.ring owner) (.party worker) moved
    ⟨nofun, ?_, ?_, kept_elsewhere buffer⟩
  · simpa [holdings, goto, setRing] using taken
  · simpa [holdings, goto, setRing, inTransit_setRing buffer] using held

/-- A store of the tail that hands tasks of the worker to its ring. -/
theorem puts (put : changed.live = (state.ring owner).live + moved)
    (held : (state.activity worker).inTransit state.ring worker =
      after.inTransit state.ring worker + moved) :
    Transaction state.holdings ((state.setRing owner changed).goto worker after).holdings 0 := by
  refine .transfer (.party worker) (.ring owner) moved
    ⟨nofun, ?_, ?_, fun place notParty notRing => kept_elsewhere buffer place notRing notParty⟩
  · simpa [holdings, goto, setRing, inTransit_setRing buffer] using held
  · simpa [holdings, goto, setRing] using put

end

theorem gives (task : T)
    (held : (state.activity worker).inTransit state.ring worker = {task}) :
    Transaction state.holdings (state.give worker task).holdings 0 := by
  refine .transfer (.party worker) .returned {task} ⟨nofun, ?_, ?_, ?_⟩
  · simpa [holdings, goto, give, Activity.inTransit] using held
  · exact (Multiset.coe_add state.returned [task]).symm
  · intro place notParty notReturned
    cases place with
    | party other =>
      have different : other ≠ worker := fun equal => notParty (by rw [equal])
      simp [holdings, goto, give, different]
    | returned => exact (notReturned rfl).elim
    | _ => rfl

theorem injects (tasks : List T)
    (held : (state.activity worker).inTransit state.ring worker = tasks) :
    Transaction state.holdings (state.inject worker tasks).holdings 0 := by
  refine .transfer (.party worker) .injection tasks ⟨nofun, ?_, ?_, ?_⟩
  · simpa [holdings, goto, inject, Activity.inTransit] using held
  · exact (Multiset.coe_add state.injection tasks).symm
  · intro place notParty notInjection
    cases place with
    | party other =>
      have different : other ≠ worker := fun equal => notParty (by rw [equal])
      simp [holdings, goto, inject, different]
    | injection => exact (notInjection rfl).elim
    | _ => rfl

/-- A write into a free slot of the worker's own ring is seen by nobody else. -/
theorem write_elsewhere (inOrder : state.InOrder) (free : (state.ring worker).tailPos + offset <
      (state.ring worker).stealPos + localQueueCapacity) (task : T) (place : Place Worker)
    (notParty : place ≠ .party worker) :
    ((state.setRing worker ((state.ring worker).write
      (index ((state.ring worker).tailPos + offset)) task)).goto worker after).holdings place =
      state.holdings place := by
  have wellFormed := inOrder.wellFormed worker
  have steal_le := wellFormed.steal_le
  have real_le := wellFormed.real_le
  cases place with
  | ring other =>
    by_cases own : other = worker
    · subst own
      simp only [holdings, goto, setRing, update_self, LocalRunQueueInner.live,
        LocalRunQueueInner.write_index]
      exact window_update (by simp only [LocalRunQueueInner.write]; omega)
        (by simp only [LocalRunQueueInner.write]; omega)
    · simp [holdings, goto, setRing, own]
  | party other =>
    have different : other ≠ worker := fun equal => notParty (by rw [equal])
    simp only [holdings, goto, setRing, ne_eq, different, not_false_eq_true,
      update_of_ne]
    apply Activity.inTransit_congr
    · rw [update_of_ne different]
    · -- a thief of this ring reads behind `real`, which is not where the owner writes
      intro victim dstTail prev first n i stealing
      by_cases own : victim = worker
      · subst own
        rcases inOrder.suits stealing with ⟨_, _, below, _, first_eq, claimed, _⟩
        rw [update_self, LocalRunQueueInner.write_index, first_eq, window_index,
          window_index]
        exact window_update (by omega) (by omega)
      · rw [update_of_ne own]
  | _ => rfl

theorem write_still (inOrder : state.InOrder) (offset : Nat)
    (free : (state.ring worker).tailPos + offset <
      (state.ring worker).stealPos + localQueueCapacity)
    (same : after.inTransit (update state.ring worker ((state.ring worker).write
        (index ((state.ring worker).tailPos + offset)) task)) worker =
      (state.activity worker).inTransit state.ring worker) :
    Transaction state.holdings ((state.setRing worker ((state.ring worker).write
      (index ((state.ring worker).tailPos + offset)) task)).goto worker after).holdings 0 := by
  apply Transaction.still
  funext place
  by_cases party : place = .party worker
  · subst party
    simpa [holdings, goto, setRing] using same
  · exact write_elsewhere inOrder free task place party

end Places

/-! ## The moves -/

theorem pushDecision_inTransit {ring : Worker → LocalRunQueueInner T}
    (consistent : (pushDecision task headVal tail : Activity Worker T).Consistent ring others
      worker) :
    (pushDecision task headVal tail : Activity Worker T).inTransit ring worker = {task} := by
  revert consistent
  unfold pushDecision
  simp only
  split_ifs
  · exact fun _ => rfl
  · exact fun _ => rfl
  · exact fun _ => rfl
  · exact False.elim

theorem stealDecision_inTransit (ring : Worker → LocalRunQueueInner T)
    (worker victim : Worker)
    (dstTail : Index) (prev : BitVec 64) (srcTail : Index) (seen : Nat) :
    (stealDecision victim dstTail prev srcTail seen : Activity Worker T).inTransit ring worker =
      0 := by
  unfold stealDecision
  simp only
  split_ifs <;> rfl

section Moves

variable [DecidableEq Worker] {state next : QueueState Worker T} {worker : Worker}

variable (inOrder : state.InOrder)

include inOrder

theorem overflowClaim_transaction
    (located : state.activity worker = .overflowClaim task head tail) :
    Transaction state.holdings (state.overflowClaim worker weak task head tail).holdings 0 := by
  rcases inOrder.suits located with ⟨steal, head_eq, tail_eq, full, steal_le⟩
  unfold QueueState.overflowClaim
  simp only
  split
  · rename_i unchanged
    rcases inOrder.overflowClaim_ring head_eq tail_eq full steal_le unchanged.2 with
      ⟨_, realPos, changed⟩
    have tailPos : (state.ring worker).tailPos =
        (state.ring worker).realPos + localQueueCapacity := by omega
    have taken := LocalRunQueueInner.live_takes (state.ring worker).tailPos tailPos.ge
    rw [← tailPos] at taken
    rw [changed]
    refine takes rfl taken ?_
    rw [located, realPos]
    simp only [Activity.inTransit]
    rw [head_eq, window_index_zero]
  · exact goto_still located rfl

/-- A store of the tail behind slots the worker has filled exposes their tasks. -/
theorem storeTail_transaction (free : (state.ring worker).Room tail room) (fits : count ≤ room)
    (held : (state.activity worker).inTransit state.ring worker =
      after.inTransit state.ring worker +
        window (state.ring worker).buffer (state.ring worker).tailPos count) :
    Transaction state.holdings ((state.setRing worker ((state.ring worker).storeTail
      (tail + BitVec.ofNat 32 count))).goto worker after).holdings 0 := by
  rw [(inOrder.storeTail_ring free fits).1]
  exact puts rfl (LocalRunQueueInner.live_puts (inOrder.wellFormed worker).real_le) held

theorem overflowReexpose_transaction
    (located : state.activity worker = .overflowReexpose task head tail) :
    Transaction state.holdings ((state.setRing worker ((state.ring worker).storeTail
      (tail + BitVec.ofNat 32 numTaken))).goto worker (.overflowMove task head [])).holdings 0 := by
  rcases inOrder.suits located with ⟨steal, head_eq, tail_eq, full, empty⟩
  have half := numTaken_eq
  have capacity := capacity_eq
  have free : (state.ring worker).Room tail numTaken := ⟨tail_eq, by omega⟩
  apply storeTail_transaction inOrder free le_rfl
  -- the first half of the old window is the one that the new tail exposes again
  rw [located, full, window_add_capacity]
  simp only [Activity.inTransit]
  rw [head_eq, window_index_zero, window_index]
  have whole : window (state.ring worker).buffer steal localQueueCapacity =
      window (state.ring worker).buffer steal numTaken +
        window (state.ring worker).buffer (steal + numTaken) numTaken :=
    window_append numTaken numTaken
  rw [whole]
  simp only [Multiset.coe_nil, add_zero, List.length_nil, Nat.sub_zero]
  ac_rfl

theorem overflowMove_transaction (located : state.activity worker = .overflowMove task head batch) :
    Transaction state.holdings (state.overflowMove worker task head batch).holdings 0 := by
  rcases inOrder.suits located with ⟨steal, head_eq, _, _, filled⟩
  apply goto_still located
  rw [head_eq, index_add, index_add, LocalRunQueueInner.read_index]
  have front : window (state.ring worker).buffer (steal + (numTaken + batch.length))
      (numTaken - batch.length) = _ := window_front (Nat.sub_pos_of_lt filled)
  have later : steal + (numTaken + (batch.length + 1)) =
      steal + (numTaken + batch.length) + 1 := by omega
  split
  · simp only [Activity.inTransit, window_index, List.length_append, List.length_singleton]
    rw [front, ← Multiset.coe_add, later, Nat.sub_add_eq, Nat.add_assoc steal,
      Multiset.coe_singleton]
    ac_rfl
  · rename_i last
    rw [List.length_append, List.length_singleton] at last
    have none : numTaken - batch.length - 1 = 0 := by omega
    simp only [Activity.inTransit, window_index]
    rw [front, none, window_zero, ← Multiset.coe_add, ← Multiset.coe_add, Nat.add_assoc steal]
    simp only [Multiset.coe_singleton, add_zero]
    ac_rfl

theorem popClaim_transaction (located : state.activity worker = .popClaim headVal) :
    Transaction state.holdings (state.popClaim worker weak headVal).holdings 0 := by
  rcases inOrder.suits located with ⟨steal, real, snapshot, near, below⟩
  unfold QueueState.popClaim
  simp only
  split
  · rename_i unchanged
    rcases inOrder.popClaim_ring snapshot near below unchanged.2 with
      ⟨taken, nonempty, settled, _, changed⟩
    rw [changed, taken]
    refine takes rfl (LocalRunQueueInner.live_takes settled nonempty) ?_
    rw [located, window_one]
    simp only [Activity.inTransit, LocalRunQueueInner.read_index, zero_add]
  · exact goto_still located rfl

theorem stealClaim_transaction
    (located : state.activity worker = .stealClaim victim dstTail prev n seen)
    (near : (state.ring victim).stealPos < seen + 2 ^ 32) :
    Transaction state.holdings
      (state.stealClaim worker weak victim dstTail prev n).holdings 0 := by
  rcases inOrder.suits located with ⟨_, _, snapshot, some, tail, seen_le, tail_le, count⟩
  unfold QueueState.stealClaim
  simp only
  split
  · rename_i unchanged
    rcases inOrder.stealClaim_ring snapshot some seen_le tail_le count near unchanged.2
      with ⟨settled, _, half, claimed, first, changed⟩
    rw [changed, if_pos (show n.toNat ≤ localQueueCapacity / 2 from half), unpack_pack]
    refine takes rfl (LocalRunQueueInner.live_takes _ claimed) ?_
    rw [located]
    simp only [Activity.inTransit, Nat.sub_zero, window_zero, add_zero, zero_add]
    rw [first, window_index_zero, settled]
  · exact goto_still located rfl

theorem stealMove_transaction
    (located : state.activity worker = .stealMove victim dstTail prev first n i) :
    Transaction state.holdings
      (state.stealMove worker victim dstTail prev first n i).holdings 0 := by
  rcases inOrder.suits located with ⟨apart, room, below, half, first_eq, _, _⟩
  have fits := room.fits
  unfold QueueState.stealMove
  simp only
  rw [room.tail_eq, index_add, first_eq, index_add, LocalRunQueueInner.read_index]
  apply write_still inOrder i (by omega)
  have source : window (state.ring victim).buffer ((state.ring victim).stealPos + i) (n - i) =
      _ := window_front (Nat.sub_pos_of_lt below)
  have kept : window (update (state.ring worker).buffer
      (slot localQueueCapacity ((state.ring worker).tailPos + i)) ((state.ring victim).buffer
        (slot localQueueCapacity ((state.ring victim).stealPos + i))))
      (state.ring worker).tailPos (i + 1) =
        window (state.ring worker).buffer (state.ring worker).tailPos i +
          {(state.ring victim).buffer
            (slot localQueueCapacity ((state.ring victim).stealPos + i))} := by
    have capacity := capacity_eq
    have taken := numTaken_eq
    rw [window_succ, window_update le_rfl (by omega), update_self]
  rw [located, first_eq, room.tail_eq]
  split
  · simp only [Activity.inTransit, window_index, window_index_zero, update_self, ne_eq,
      apart, not_false_eq_true, update_of_ne, LocalRunQueueInner.write_index]
    rw [kept, source, Nat.add_assoc, Nat.sub_add_eq]
    ac_rfl
  · have last : n = i + 1 := by omega
    simp only [Activity.inTransit, window_index, window_index_zero, update_self,
      LocalRunQueueInner.write_index]
    rw [source, last, kept, Nat.add_sub_cancel_left, Nat.sub_self, window_zero]
    ac_rfl

theorem stealRelease_transaction
    (located : state.activity worker = .stealRelease victim dstTail prev n) :
    Transaction state.holdings
      (state.stealRelease worker weak victim dstTail prev n).holdings 0 := by
  rcases inOrder.suits located with ⟨_, _, _, _, _, real, snapshot⟩
  unfold QueueState.stealRelease
  simp only
  split
  · rename_i unchanged
    rw [inOrder.stealRelease_ring snapshot unchanged.2]
    exact takes rfl (add_zero _).symm (by rw [located, add_zero]; rfl)
  · exact goto_still located rfl

theorem stealTake_transaction (located : state.activity worker = .stealTake dstTail n) :
    Transaction state.holdings (state.stealTake worker dstTail n).holdings 0 := by
  rcases inOrder.suits located with ⟨room, some, _⟩
  apply goto_still located
  have counted : n = n - 1 + 1 := by omega
  have last : window (state.ring worker).buffer (state.ring worker).tailPos n =
      window (state.ring worker).buffer (state.ring worker).tailPos (n - 1) +
        {(state.ring worker).buffer
          (slot localQueueCapacity ((state.ring worker).tailPos + (n - 1)))} := by
    rw [counted, window_succ, ← counted]
  rw [room.tail_eq, index_add, LocalRunQueueInner.read_index]
  split
  · simp only [Activity.inTransit, window_index_zero]
    rw [last]
  · have none : n - 1 = 0 := by omega
    simp only [Activity.inTransit, window_index_zero]
    rw [last, none, window_zero, zero_add]

theorem advance_transaction (admitted : withinContract state (.advance worker weak))
    (stepped : state.advance worker weak = some next) :
    Transaction state.holdings next.holdings 0 := by
  have consistent := inOrder.consistent worker
  cases located : state.activity worker <;>
    simp only [QueueState.advance, located, Option.some.injEq, reduceCtorEq] at stepped <;>
    (try subst stepped) <;> rw [located] at consistent
  case pushBackLoadHead task tail =>
    have fits := consistent.fits
    have capacity := capacity_eq
    rw [if_pos (by rw [inOrder.toNat_len consistent]; omega)]
    exact goto_still located rfl
  case pushLoadTail task headVal =>
    rcases consistent with ⟨steal, real, snapshot, near⟩
    exact goto_still located (pushDecision_inTransit
      (inOrder.pushDecision_consistent snapshot near task state.activity))
  case overflowSingle task => exact injects [task] (by rw [located]; rfl)
  case overflowClaim task head tail => exact overflowClaim_transaction inOrder located
  case overflowReexpose task head tail => exact overflowReexpose_transaction inOrder located
  case overflowMove task head batch => exact overflowMove_transaction inOrder located
  case overflowBatch batch => exact injects batch (by rw [located]; rfl)
  case finishWrite task tail =>
    have fits := consistent.fits
    rw [consistent.tail_eq]
    apply write_still inOrder 0 (by omega)
    rw [located]
    simp [Activity.inTransit, LocalRunQueueInner.write_index]
  case finishStore tail =>
    apply storeTail_transaction inOrder consistent le_rfl
    rw [located, window_one]
    simp only [Activity.inTransit]
    rw [consistent.tail_eq, LocalRunQueueInner.read_index, zero_add]
  case popLoadTail headVal | stealLoadDstHead victim dstTail =>
    exact goto_still located (by split <;> rfl)
  case popClaim headVal => exact popClaim_transaction inOrder located
  case popMove real => exact gives _ (by rw [located]; rfl)
  case stealLoadTail victim dstTail prev seen =>
    exact goto_still located (stealDecision_inTransit ..)
  case stealClaim victim dstTail prev n seen =>
    refine stealClaim_transaction inOrder located (admitted (victim, seen) ?_)
    rw [located]
    rfl
  case stealMove victim dstTail prev first n i => exact stealMove_transaction inOrder located
  case stealRelease victim dstTail prev n => exact stealRelease_transaction inOrder located
  case stealTake dstTail n => exact stealTake_transaction inOrder located
  case stealPublish dstTail n ret =>
    apply storeTail_transaction inOrder consistent.1 consistent.2.2
    rw [located]
    simp only [Activity.inTransit]
    rw [consistent.1.tail_eq, window_index_zero, add_comm]
  case returning ret => exact gives ret (by rw [located]; rfl)
  all_goals exact goto_still located rfl

omit inOrder in
theorem start_transaction (idle : state.activity worker = .idle)
    (stepped : state.start worker operation = some next) :
    ∃ added, Transaction state.holdings next.holdings added ∧
      (next.pushed : Multiset T) = state.pushed + added := by
  have enter : ∀ (task : T) (after : Activity Worker T),
      after.inTransit state.ring worker = {task} →
      Transaction state.holdings
        ({ state with pushed := state.pushed ++ [task] }.goto worker after).holdings {task} := by
    intro task after held
    refine Transaction.supply (M := Multiset T) (Place.party worker) {task} ⟨?_, ?_⟩
    · simpa [holdings, goto, idle, Activity.inTransit] using held
    · intro place notParty
      cases place with
      | party other =>
        have different : other ≠ worker := fun equal => notParty (by rw [equal])
        simp [holdings, goto, different]
      | _ => rfl
  cases operation with
  | pushBack task | pushOrOverflow task =>
    cases stepped
    exact ⟨{task}, enter task _ rfl, (Multiset.coe_add _ _).symm⟩
  | pop =>
    cases stepped
    exact ⟨0, goto_still idle rfl, (add_zero _).symm⟩
  | stealInto victim =>
    rcases of_unless stepped with ⟨_, rfl⟩
    exact ⟨0, goto_still idle rfl, (add_zero _).symm⟩

omit inOrder in
theorem advance_pushed (stepped : state.advance worker weak = some next) :
    next.pushed = state.pushed := by
  cases located : state.activity worker <;>
    simp only [QueueState.advance, located, Option.some.injEq, reduceCtorEq] at stepped <;>
    subst stepped
  case overflowClaim => unfold QueueState.overflowClaim; simp only; split <;> rfl
  case popClaim => unfold QueueState.popClaim; simp only; split <;> rfl
  case stealClaim => unfold QueueState.stealClaim; simp only; split <;> rfl
  case stealRelease => unfold QueueState.stealRelease; simp only; split <;> rfl
  all_goals rfl

/-- Each move of the queues is one transaction between the places. -/
theorem step_transaction (admitted : withinContract state move)
    (stepped : state.step move = some next) :
    ∃ added, Transaction state.holdings next.holdings added ∧
      (next.pushed : Multiset T) = state.pushed + added := by
  cases move with
  | start worker operation =>
    simp only [QueueState.step] at stepped
    split at stepped
    · rename_i idle
      exact start_transaction idle stepped
    · cases stepped
  | advance worker weak =>
    refine ⟨0, advance_transaction inOrder admitted stepped, ?_⟩
    rw [advance_pushed stepped, add_zero]

end Moves

end QueueState

end CoroRuntime.RunQueue
