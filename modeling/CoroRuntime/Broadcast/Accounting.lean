import CoroRuntime.Broadcast.Channel
import CoroRuntime.Foundation.Counting

/-! # The slots of the broadcast channel

Every slot counts the active receivers that have yet to read its value, and holds the
value as long as there is one.
-/

namespace CoroRuntime.Broadcast

open Foundation
open Function (update update_self update_of_ne)

variable {capacity : Nat} [NeZero capacity] {Receiver Future Value : Type}
  {state next : BroadcastState capacity Receiver Future Value}

namespace BroadcastState

/-- The receiver is active and has not yet read the value at `seq`. -/
def awaits (state : BroadcastState capacity Receiver Future Value) (seq : Nat)
    (receiver : Receiver) : Bool :=
  match state.receiver receiver with
  | some content => content.active && decide (content.cursor ≤ seq)
  | none => false

/-- The number of active receivers whose cursor is at most `seq`. -/
def counted (state : BroadcastState capacity Receiver Future Value) (seq : Nat) : Nat :=
  state.created.countP (state.awaits seq)

def isActive (state : BroadcastState capacity Receiver Future Value) (receiver : Receiver) :
    Bool :=
  match state.receiver receiver with
  | some content => content.active
  | none => false

def Retains (state : BroadcastState capacity Receiver Future Value) (seq : Nat) : Prop :=
  state.oldestSeq ≤ seq ∧ seq < state.nextSeq

omit [NeZero capacity] in
theorem oldestSeq_eq : state.oldestSeq = state.nextSeq - capacity := by
  unfold oldestSeq
  split <;> omega

/-- Two sequence numbers that the ring still has are in different slots. -/
theorem Retains.slot_ne (retains : state.Retains seq) (retained : state.Retains other)
    (different : seq ≠ other) : slot capacity seq ≠ slot capacity other := by
  unfold Retains at retains retained
  rw [oldestSeq_eq] at retains retained
  rcases Nat.lt_or_gt_of_ne different with before | after
  · exact Foundation.slot_ne before (by omega)
  · exact (Foundation.slot_ne after (by omega)).symm

end BroadcastState

/-- What a slot holds that `left` receivers have yet to read. -/
def RingSlot.of (value : Option Value) (left : Nat) : RingSlot Value where
  value := if left = 0 then none else value
  remaining := left

/-! ## The invariant -/

structure Accounted (state : BroadcastState capacity Receiver Future Value) : Prop where
  nodup : state.created.Nodup
  registered : ∀ receiver, (state.receiver receiver).isSome → receiver ∈ state.created
  count : state.receiverCount = state.created.countP state.isActive
  logged : state.log.length = state.nextSeq
  cursors : ∀ receiver content, state.receiver receiver = some content →
    content.cursor ≤ state.nextSeq
  slots : ∀ seq, state.Retains seq →
    state.slotOf seq = .of state.log[seq]? (state.counted seq)
  intact : state.failed = false

namespace Accounted

theorem of_same (accounted : Accounted state) (ring : next.ring = state.ring)
    (nextSeq : next.nextSeq = state.nextSeq) (count : next.receiverCount = state.receiverCount)
    (created : next.created = state.created) (log : next.log = state.log)
    (failed : next.failed = state.failed)
    (receivers : ∀ receiver, (next.receiver receiver).map (fun content =>
        (content.active, content.cursor)) =
      (state.receiver receiver).map fun content => (content.active, content.cursor)) :
    Accounted next := by
  have awaits : next.awaits = state.awaits := by
    funext seq receiver
    have same := receivers receiver
    unfold BroadcastState.awaits
    cases found : next.receiver receiver <;> cases was : state.receiver receiver <;>
      simp_all
  have active : next.isActive = state.isActive := by
    funext receiver
    have same := receivers receiver
    unfold BroadcastState.isActive
    cases found : next.receiver receiver <;> cases was : state.receiver receiver <;>
      simp_all
  constructor
  · rw [created]
    exact accounted.nodup
  · intro receiver present
    rw [created]
    apply accounted.registered
    have same := congrArg Option.isSome (receivers receiver)
    simpa [present] using same.symm
  · rw [count, created, active, accounted.count]
  · rw [log, nextSeq, accounted.logged]
  · intro receiver content found
    have same := receivers receiver
    rw [found] at same
    rcases Option.map_eq_some_iff.mp same.symm with ⟨was, before, equal⟩
    simp only [Prod.mk.injEq] at equal
    rw [nextSeq, ← equal.2]
    exact accounted.cursors receiver was before
  · intro seq retains
    have before : state.Retains seq := by
      simpa [BroadcastState.Retains, BroadcastState.oldestSeq, nextSeq] using retains
    have slot := accounted.slots seq before
    simpa [BroadcastState.slotOf, BroadcastState.counted, ring, created, log, awaits] using slot
  · rw [failed, accounted.intact]

end Accounted

/-! ## One receiver moves on -/

section Moved

variable [DecidableEq Receiver]

def ReceiverState.awaits (content : ReceiverState Value) (seq : Nat) : Bool :=
  content.active && decide (content.cursor ≤ seq)

omit [NeZero capacity] in
theorem BroadcastState.counted_update {receiver : Receiver} (nodup : state.created.Nodup)
    (present : receiver ∈ state.created) (found : state.receiver receiver = some old)
    (created : next.created = state.created)
    (receivers : next.receiver = update state.receiver receiver (some content)) (seq : Nat) :
    next.counted seq + (old.awaits seq).toNat =
      state.counted seq + (content.awaits seq).toNat := by
  have change := countP_change (state.awaits seq) (next.awaits seq) nodup present (by
      intro other _ different
      simp only [BroadcastState.awaits, receivers, update_of_ne different])
  simpa [BroadcastState.counted, BroadcastState.awaits, ReceiverState.awaits, created, receivers,
    found] using change

theorem Accounted.moved (accounted : Accounted state) (found : state.receiver receiver = some old)
    (bound : content.cursor ≤ state.nextSeq)
    (receivers : next.receiver = update state.receiver receiver (some content))
    (nextSeq : next.nextSeq = state.nextSeq) (created : next.created = state.created)
    (log : next.log = state.log) (failed : next.failed = false)
    (count : next.receiverCount + old.active.toNat = state.receiverCount + content.active.toNat)
    (slots : ∀ seq, state.Retains seq → ∀ left,
      left + (old.awaits seq).toNat = state.counted seq + (content.awaits seq).toNat →
      next.slotOf seq = .of state.log[seq]? left) : Accounted next := by
  have present : receiver ∈ state.created := accounted.registered receiver (by simp [found])
  constructor
  · rw [created]
    exact accounted.nodup
  · intro other there
    rw [created]
    by_cases same : other = receiver
    · rwa [same]
    · rw [receivers, update_of_ne same] at there
      exact accounted.registered other there
  · have change := countP_change state.isActive next.isActive accounted.nodup present (by
        intro other _ different
        simp only [BroadcastState.isActive, receivers, update_of_ne different])
    have active : state.isActive receiver = old.active := by
      simp [BroadcastState.isActive, found]
    have becomes : next.isActive receiver = content.active := by
      simp [BroadcastState.isActive, receivers]
    rw [active, becomes, ← accounted.count] at change
    rw [created]
    omega
  · rw [log, nextSeq, accounted.logged]
  · intro other there present
    rw [nextSeq]
    by_cases same : other = receiver
    · rw [receivers, same, update_self] at present
      cases present
      exact bound
    · rw [receivers, update_of_ne same] at present
      exact accounted.cursors other there present
  · intro seq retains
    have before : state.Retains seq := by
      simpa [BroadcastState.Retains, BroadcastState.oldestSeq, nextSeq] using retains
    rw [log]
    exact slots seq before _
      (BroadcastState.counted_update accounted.nodup present found created receivers seq)
  · exact failed

end Moved

/-! ## The operations -/

namespace BroadcastState

theorem slotOf_uncount_self (seq : Nat) :
    (state.uncount seq).slotOf seq =
      ⟨if (state.slotOf seq).remaining - 1 = 0 then none else (state.slotOf seq).value,
        (state.slotOf seq).remaining - 1⟩ := by
  simp [uncount, setSlot, slotOf]

theorem slotOf_uncount_of_ne (different : slot capacity other ≠ slot capacity seq) :
    (state.uncount seq).slotOf other = state.slotOf other := by
  simp [uncount, setSlot, slotOf, update_of_ne different]

theorem slotOf_uncount_of (slot : state.slotOf seq = .of value (left + 1)) :
    (state.uncount seq).slotOf seq = .of value left := by
  rw [slotOf_uncount_self, slot]
  simp [RingSlot.of]

theorem releases_eq (seqs : List Nat) (state : BroadcastState capacity Receiver Future Value) :
    ∃ ring failed, seqs.foldl release state = { state with ring := ring, failed := failed } := by
  induction seqs generalizing state with
  | nil => exact ⟨_, _, rfl⟩
  | cons seq rest induction =>
    rcases induction (state.release seq) with ⟨ring, failed, rest⟩
    exact ⟨ring, failed, rest⟩

/-- The loop of `remove_receiver()` counts the receiver out of the slots it goes over. -/
theorem slotOf_releases (low high : Nat) (near : high ≤ low + capacity) (length : Nat) :
    ∀ (first : Nat) (state : BroadcastState capacity Receiver Future Value)
      (value : Nat → Option Value) (left : Nat → Nat), low ≤ first → first + length = high →
    (∀ seq, low ≤ seq → seq < high → state.slotOf seq = .of (value seq) (left seq)) →
    (∀ seq, first ≤ seq → seq < high → 0 < left seq) → state.failed = false →
    ((List.range' first length).foldl release state).failed = false ∧
      ∀ seq, low ≤ seq → seq < high →
        ((List.range' first length).foldl release state).slotOf seq =
          .of (value seq) (if first ≤ seq then left seq - 1 else left seq) := by
  induction length with
  | zero =>
    intro first state value left lower upper slots counted intact
    refine ⟨intact, fun seq above below => ?_⟩
    rw [if_neg (by omega)]
    exact slots seq above below
  | succ length induction =>
    intro first state value left lower upper slots counted intact
    have some : 0 < left first := counted first (le_refl _) (by omega)
    have here : state.slotOf first = .of (value first) (left first - 1 + 1) := by
      rw [slots first lower (by omega), Nat.sub_add_cancel some]
    have released : ∀ seq, low ≤ seq → seq < high → (state.release first).slotOf seq =
        .of (value seq) (update left first (left first - 1) seq) := by
      intro seq above below
      by_cases same : seq = first
      · subst same
        rw [update_self]
        exact slotOf_uncount_of (by exact here)
      · rw [update_of_ne same, ← slots seq above below]
        apply slotOf_uncount_of_ne
        rcases Nat.lt_or_gt_of_ne same with before | after
        · exact slot_ne before (by omega)
        · exact (slot_ne after (by omega)).symm
    have rest := induction (first + 1) (state.release first) value
      (update left first (left first - 1)) (by omega) (by omega) released
      (by
        intro seq above below
        rw [update_of_ne (by omega)]
        exact counted seq (by omega) below)
      (by
        have positive : 0 < (state.slotOf first).remaining := by
          rw [here]
          exact Nat.succ_pos _
        simp [release, require, uncount, setSlot, intact, positive])
    rw [List.range'_succ, List.foldl_cons]
    refine ⟨rest.1, fun seq above below => ?_⟩
    rw [rest.2 seq above below]
    by_cases same : seq = first
    · subst same
      rw [update_self, if_neg (by omega), if_pos (le_refl _)]
    · rw [update_of_ne same]
      split <;> split <;> first | rfl | omega

end BroadcastState

namespace Accounted

theorem of_futures (accounted : Accounted state) {senderWaiters : List Future} :
    Accounted { state with
      future := future, receiverWaiters := receiverWaiters, senderWaiters := senderWaiters,
      senderCount := senderCount, inactive := inactive } :=
  accounted.of_same rfl rfl rfl rfl rfl rfl fun _ => rfl

theorem held (accounted : Accounted state) (found : state.receiver receiver = some content)
    (active : content.active) (retains : state.Retains content.cursor) :
    ∃ left, state.slotOf content.cursor = .of state.log[content.cursor]? (left + 1) ∧
      state.counted content.cursor = left + 1 := by
  have positive : 0 < state.counted content.cursor := by
    apply List.countP_pos_iff.mpr
    refine ⟨receiver, accounted.registered receiver (by simp [found]), ?_⟩
    simp [BroadcastState.awaits, found, active]
  refine ⟨state.counted content.cursor - 1, ?_, by omega⟩
  rw [Nat.sub_add_cancel positive]
  exact accounted.slots _ retains

theorem take (accounted : Accounted state) (found : state.receiver receiver = some content)
    (active : content.active) (retains : state.Retains content.cursor) :
    (state.take content.cursor).1 = state.log[content.cursor]? ∧
      (state.take content.cursor).2.failed = false := by
  rcases accounted.held found active retains with ⟨left, slot, _⟩
  have present : content.cursor < state.log.length := by
    rw [accounted.logged]
    exact retains.2
  constructor
  · simp [BroadcastState.take, slot, RingSlot.of]
  · simp [BroadcastState.take, slot, RingSlot.of, BroadcastState.require, BroadcastState.uncount,
      BroadcastState.setSlot, accounted.intact, present]

section Receivers

variable [DecidableEq Receiver]

section

variable (accounted : Accounted state)

include accounted

theorem read (found : state.receiver receiver = some content) (active : content.active)
    (retains : state.Retains content.cursor) (answer : Answer Value) :
    Accounted ((state.take content.cursor).2.report receiver content (content.cursor + 1)
      answer) := by
  rcases accounted.held found active retains with ⟨left, slot, count⟩
  refine accounted.moved found ?_ rfl rfl rfl rfl (accounted.take found active retains).2 rfl ?_
  · exact retains.2
  intro seq retained counted balance
  by_cases same : seq = content.cursor
  · subst same
    have less : counted = left := by
      simp only [ReceiverState.awaits, active, count, decide_eq_true (le_refl _),
        decide_eq_false (Nat.not_succ_le_self content.cursor), Bool.and_true, Bool.and_false,
        Bool.toNat_true, Bool.toNat_false] at balance
      omega
    subst less
    exact BroadcastState.slotOf_uncount_of (by exact slot)
  · have equal : counted = state.counted seq := by
      have awaits : (decide (content.cursor + 1 ≤ seq)) = decide (content.cursor ≤ seq) := by
        rw [decide_eq_decide]
        omega
      simp only [ReceiverState.awaits, active, awaits] at balance
      omega
    rw [equal, ← accounted.slots seq retained]
    exact BroadcastState.slotOf_uncount_of_ne (retained.slot_ne retains same)

theorem lag (found : state.receiver receiver = some content)
    (lagged : content.cursor < state.oldestSeq) (answer : Answer Value) :
    Accounted (state.report receiver content state.oldestSeq answer) := by
  have bound : state.oldestSeq ≤ state.nextSeq := by
    rw [BroadcastState.oldestSeq_eq]
    omega
  refine accounted.moved found bound rfl rfl rfl rfl accounted.intact rfl ?_
  intro seq retained counted balance
  have equal : counted = state.counted seq := by
    have lower := retained.1
    simp only [ReceiverState.awaits, decide_eq_true lower,
      decide_eq_true (show content.cursor ≤ seq by omega)] at balance
    omega
  rw [equal]
  exact accounted.slots seq retained

theorem stay (found : state.receiver receiver = some content) (answer : Answer Value) :
    Accounted (state.report receiver content content.cursor answer) := by
  refine accounted.moved found ?_ rfl rfl rfl rfl accounted.intact rfl ?_
  · exact accounted.cursors receiver content found
  intro seq retained counted balance
  have equal : counted = state.counted seq := by
    simp only [ReceiverState.awaits] at balance
    omega
  rw [equal]
  exact accounted.slots seq retained

theorem retire (found : state.receiver receiver = some content) (active : content.active) :
    Accounted (state.retire receiver content) := by
  have bound := accounted.cursors receiver content found
  have oldest : state.oldestSeq ≤ state.nextSeq := by
    rw [BroadcastState.oldestSeq_eq]
    omega
  have positive : ∀ seq, content.cursor ≤ seq → 0 < state.counted seq := by
    intro seq below
    apply List.countP_pos_iff.mpr
    refine ⟨receiver, accounted.registered receiver (by simp [found]), ?_⟩
    simp [BroadcastState.awaits, found, active, below]
  have released := BroadcastState.slotOf_releases state.oldestSeq state.nextSeq
    (by rw [BroadcastState.oldestSeq_eq]; omega)
    (state.nextSeq - max content.cursor state.oldestSeq) (max content.cursor state.oldestSeq) state
    (fun seq => state.log[seq]?) state.counted (by omega) (by omega)
    (fun seq above below => accounted.slots seq ⟨above, below⟩)
    (fun seq above _ => positive seq (by omega)) accounted.intact
  rcases BroadcastState.releases_eq (List.range' (max content.cursor state.oldestSeq)
    (state.nextSeq - max content.cursor state.oldestSeq)) state with ⟨ring, failed, equal⟩
  have counts : 0 < state.receiverCount := by
    rw [accounted.count]
    apply List.countP_pos_iff.mpr
    exact ⟨receiver, accounted.registered receiver (by simp [found]),
      by simp [BroadcastState.isActive, found, active]⟩
  simp only [BroadcastState.retire, BroadcastState.removeReceiver, BroadcastState.setReceiver]
  rw [equal] at released ⊢
  refine accounted.moved found ?_ rfl rfl rfl rfl released.1 ?_ ?_
  · exact bound
  · simp only [active, Bool.toNat_true, Bool.toNat_false]
    omega
  · intro seq retained counted balance
    refine (released.2 seq retained.1 retained.2).trans ?_
    simp only [ReceiverState.awaits, active, Bool.true_and, Bool.false_and,
      Bool.toNat_false] at balance
    have equal : counted =
        if max content.cursor state.oldestSeq ≤ seq then state.counted seq - 1
        else state.counted seq := by
      have lower := retained.1
      by_cases below : content.cursor ≤ seq
      · rw [if_pos (by omega)]
        rw [decide_eq_true below] at balance
        simp only [Bool.toNat_true] at balance
        omega
      · rw [if_neg (by omega)]
        rw [decide_eq_false below] at balance
        simp only [Bool.toNat_false] at balance
        omega
    rw [equal]

theorem added (fresh : receiver ∉ state.created) (active : content.active)
    (cursor : content.cursor = state.nextSeq)
    (receivers : next.receiver = update state.receiver receiver (some content))
    (ring : next.ring = state.ring) (nextSeq : next.nextSeq = state.nextSeq)
    (created : next.created = state.created ++ [receiver]) (log : next.log = state.log)
    (failed : next.failed = state.failed) (count : next.receiverCount = state.receiverCount + 1) :
    Accounted next := by
  have others : ∀ other ∈ state.created, next.receiver other = state.receiver other := by
    intro other member
    rw [receivers, update_of_ne]
    rintro rfl
    exact fresh member
  have here : next.receiver receiver = some content := by
    rw [receivers, update_self]
  constructor
  · rw [created, List.nodup_append]
    refine ⟨accounted.nodup, List.nodup_singleton _, ?_⟩
    rintro other member another same rfl
    rw [List.mem_singleton.mp same] at member
    exact fresh member
  · intro other present
    rw [created, List.mem_append, List.mem_singleton]
    by_cases same : other = receiver
    · exact .inr same
    · rw [receivers, update_of_ne same] at present
      exact .inl (accounted.registered other present)
  · have kept : state.created.countP next.isActive = state.created.countP state.isActive := by
      apply List.countP_congr
      intro other member
      simp only [BroadcastState.isActive, others other member]
    rw [created, List.countP_append, kept, ← accounted.count, count]
    simp [BroadcastState.isActive, here, active]
  · rw [log, nextSeq, accounted.logged]
  · intro other there present
    rw [nextSeq]
    by_cases same : other = receiver
    · rw [same, here] at present
      cases present
      exact cursor.le
    · rw [receivers, update_of_ne same] at present
      exact accounted.cursors other there present
  · intro seq retains
    have before : state.Retains seq := by
      simpa [BroadcastState.Retains, BroadcastState.oldestSeq, nextSeq] using retains
    have late : ¬ content.cursor ≤ seq := by
      rw [cursor]
      exact Nat.not_le_of_lt before.2
    have kept : state.created.countP (next.awaits seq) =
        state.created.countP (state.awaits seq) := by
      apply List.countP_congr
      intro other member
      simp only [BroadcastState.awaits, others other member]
    have same : next.counted seq = state.counted seq := by
      rw [BroadcastState.counted, created, List.countP_append, kept]
      simp [BroadcastState.awaits, here, late, BroadcastState.counted]
    rw [same, log, ← accounted.slots seq before]
    simp only [BroadcastState.slotOf, ring]
  · rw [failed, accounted.intact]

theorem receive (found : state.receiver receiver = some content) (active : content.active) :
    Accounted (state.receive receiver content).2 := by
  unfold BroadcastState.receive
  split
  · exact accounted.lag found ‹_› _
  · split
    · rename_i above below
      have retains : state.Retains content.cursor := ⟨Nat.le_of_not_lt above, below⟩
      have present : content.cursor < state.log.length := by
        rw [accounted.logged]
        exact below
      have value := (accounted.take found active retains).1
      rw [List.getElem?_eq_getElem present] at value
      simp only [value]
      exact accounted.read found active retains _
    · split
      · exact accounted.stay found _
      · exact accounted.stay found _

end

theorem addReceiver [DecidableEq Future] (accounted : Accounted state)
    (fresh : receiver ∉ state.created) : Accounted (state.addReceiver receiver) := by
  unfold BroadcastState.addReceiver
  split <;> exact accounted.added fresh rfl rfl rfl rfl rfl rfl rfl rfl rfl

end Receivers

theorem send [DecidableEq Future] (accounted : Accounted state)
    (receivers : state.receiverCount ≠ 0) (value : Value) : Accounted (state.send value) := by
  have length := accounted.logged
  constructor
  · exact accounted.nodup
  · exact accounted.registered
  · exact accounted.count
  · simp [BroadcastState.send, BroadcastState.drainReceivers, BroadcastState.takeWakers, length]
  · intro receiver content found
    exact Nat.le_succ_of_le (accounted.cursors receiver content found)
  · intro seq retains
    rw [BroadcastState.Retains, BroadcastState.oldestSeq_eq] at retains
    have bounds : state.nextSeq + 1 - capacity ≤ seq ∧ seq < state.nextSeq + 1 := retains
    have log : (state.send value).log = state.log ++ [value] := rfl
    have counted : (state.send value).counted seq = state.counted seq := rfl
    have ring : (state.send value).ring = update state.ring
      (slot capacity state.nextSeq) ⟨some value, state.receiverCount⟩ := rfl
    rw [log, counted, BroadcastState.slotOf, ring]
    by_cases newest : seq = state.nextSeq
    · subst newest
      have everyone : state.counted state.nextSeq = state.receiverCount := by
        rw [accounted.count]
        apply List.countP_congr
        intro receiver _
        unfold BroadcastState.awaits BroadcastState.isActive
        cases found : state.receiver receiver with
        | none => rfl
        | some content => simp [accounted.cursors receiver content found]
      rw [update_self, everyone, ← length, List.getElem?_concat_length]
      simp [RingSlot.of, receivers]
    · have below : seq < state.nextSeq := by omega
      rw [update_of_ne (slot_ne below (by omega)),
        List.getElem?_append_left (by omega)]
      apply accounted.slots seq
      rw [BroadcastState.Retains, BroadcastState.oldestSeq_eq]
      omega
  · exact accounted.intact

/-! ## The moves -/

section Moves

variable [DecidableEq Receiver] [DecidableEq Future]

theorem pollRecv (accounted : Accounted state) (found : state.receiver receiver = some reader)
    (active : reader.active) (future : Future) (content : FutureState Receiver) :
    Accounted (state.pollRecv future content receiver reader) := by
  have received := accounted.receive found active
  unfold BroadcastState.pollRecv
  split
  · rename_i equal
    rw [equal] at received
    exact received.of_futures
  · rename_i equal
    rw [equal] at received
    exact received.of_futures

omit [DecidableEq Receiver] in
theorem dropFuture (accounted : Accounted state) (future : Future)
    (content : FutureState Receiver) : Accounted (state.dropFuture future content) := by
  unfold BroadcastState.dropFuture
  split <;> exact accounted.of_futures

theorem step (accounted : Accounted state) (effect : Effect state move next) : Accounted next := by
  cases effect with
  | refused => exact accounted
  | sent value receivers => exact accounted.send receivers value
  | cloned | handles | requested | woken => exact accounted.of_futures
  | senderClosed =>
    unfold BroadcastState.closeSender
    dsimp only
    split <;> exact accounted.of_futures
  | added receiver fresh => exact accounted.addReceiver fresh
  | retired receiver content _ found active => exact (accounted.retire found active).of_futures
  | received receiver content found active => exact accounted.receive found active
  | polledRecv future content receiver reader _ _ found active =>
    exact accounted.pollRecv found active future content
  | polledActive =>
    unfold BroadcastState.pollActive
    dsimp only
    split <;> exact accounted.of_futures
  | dropped future content => exact accounted.dropFuture future content

end Moves

end Accounted

/-! ## How a receiver goes on -/

/-- The answer that a receive gives at a cursor, and the cursor after it. -/
inductive Answered (state : BroadcastState capacity Receiver Future Value) (cursor : Nat) :
    Answer Value → Nat → Prop
  | value (value : Value) (retains : state.Retains cursor)
      (sent : state.log[cursor]? = some value) :
      Answered state cursor (.value value) (cursor + 1)
  | lagged (evicted : cursor < state.oldestSeq) :
      Answered state cursor (.lagged (state.oldestSeq - cursor)) state.oldestSeq
  | closed (current : state.nextSeq ≤ cursor) (senders : state.senderCount = 0) :
      Answered state cursor .closed cursor
  | nothing (current : state.nextSeq ≤ cursor) (senders : state.senderCount ≠ 0) :
      Answered state cursor .nothing cursor

inductive Progress (state : BroadcastState capacity Receiver Future Value)
    (content : ReceiverState Value) : ReceiverState Value → Prop
  | kept : Progress state content content
  | answered (answer : Answer Value) (cursor : Nat)
      (active : content.active) (answered : Answered state content.cursor answer cursor) :
      Progress state content { content with
        cursor := cursor
        reports := content.reports ++ [⟨answer, state.nextSeq, state.senderCount⟩] }
  | retired : Progress state content { content with active := false }

section Progress

variable [DecidableEq Receiver]

theorem Accounted.receive_eq (accounted : Accounted state)
    (found : state.receiver receiver = some content) (active : content.active) :
    ∃ answer cursor ring failed, Answered state content.cursor answer cursor ∧
      state.receive receiver content = (some answer, { state with
        ring := ring
        failed := failed
        receiver := update state.receiver receiver (some { content with
          cursor := cursor
          reports := content.reports ++ [⟨answer, state.nextSeq, state.senderCount⟩] }) }) := by
  unfold BroadcastState.receive
  split
  · exact ⟨_, _, _, _, .lagged ‹_›, rfl⟩
  · rename_i above
    split
    · rename_i below
      have retains : state.Retains content.cursor := ⟨Nat.le_of_not_lt above, below⟩
      have present : content.cursor < state.log.length := by
        rw [accounted.logged]
        exact below
      have value := (accounted.take found active retains).1
      rw [List.getElem?_eq_getElem present] at value
      simp only [value]
      exact ⟨_, _, _, _, .value _ retains (List.getElem?_eq_getElem present), rfl⟩
    · have current := Nat.le_of_not_lt ‹¬ content.cursor < state.nextSeq›
      split
      · exact ⟨_, _, _, _, .closed current ‹_›, rfl⟩
      · exact ⟨_, _, _, _, .nothing current ‹_›, rfl⟩

inductive Change (state next : BroadcastState capacity Receiver Future Value) : Prop
  | kept (nextSeq : next.nextSeq = state.nextSeq) (log : next.log = state.log)
      (receivers : next.receiver = state.receiver)
  | sent (value : Value) (nextSeq : next.nextSeq = state.nextSeq + 1)
      (log : next.log = state.log ++ [value]) (receivers : next.receiver = state.receiver)
  | added (receiver : Receiver) (fresh : state.receiver receiver = none)
      (nextSeq : next.nextSeq = state.nextSeq) (log : next.log = state.log)
      (receivers : next.receiver = update state.receiver receiver
        (some ⟨true, state.nextSeq, state.nextSeq, []⟩))
  | progressed (receiver : Receiver) (content later : ReceiverState Value)
      (found : state.receiver receiver = some content) (progress : Progress state content later)
      (nextSeq : next.nextSeq = state.nextSeq) (log : next.log = state.log)
      (receivers : next.receiver = update state.receiver receiver (some later))

variable [DecidableEq Future]

theorem Accounted.change (accounted : Accounted state) (effect : Effect state move next) :
    Change state next := by
  cases effect with
  | refused | cloned | handles | requested | woken => exact .kept rfl rfl rfl
  | sent value => exact .sent value rfl rfl rfl
  | senderClosed =>
    unfold BroadcastState.closeSender
    dsimp only
    split <;> exact .kept rfl rfl rfl
  | added receiver fresh =>
    have absent : state.receiver receiver = none := by
      by_contra present
      exact fresh (accounted.registered receiver (Option.isSome_iff_ne_none.mpr present))
    unfold BroadcastState.addReceiver
    split <;> exact .added receiver absent rfl rfl rfl
  | retired receiver content _ found =>
    rcases BroadcastState.releases_eq (List.range' (max content.cursor state.oldestSeq)
      (state.nextSeq - max content.cursor state.oldestSeq)) state with ⟨ring, failed, equal⟩
    simp only [BroadcastState.retire, BroadcastState.removeReceiver, BroadcastState.setReceiver,
      equal]
    exact .progressed receiver content _ found .retired rfl rfl rfl
  | received receiver content found active =>
    rcases accounted.receive_eq found active with ⟨answer, cursor, ring, failed, answered, equal⟩
    rw [equal]
    exact .progressed receiver content _ found (.answered answer cursor active answered)
      rfl rfl rfl
  | polledRecv future _ receiver reader _ _ found active =>
    rcases accounted.receive_eq found active with ⟨answer, cursor, ring, failed, answered, equal⟩
    have progress : Progress state reader _ := .answered answer cursor active answered
    unfold BroadcastState.pollRecv
    rw [equal]
    split <;> rename_i same <;> cases same <;>
      exact .progressed receiver reader _ found progress rfl rfl rfl
  | polledActive =>
    unfold BroadcastState.pollActive
    dsimp only
    split <;> exact .kept rfl rfl rfl
  | dropped =>
    unfold BroadcastState.dropFuture
    split <;> exact .kept rfl rfl rfl

namespace Change

omit [NeZero capacity] [DecidableEq Future]

theorem nextSeq_le (change : Change state next) : state.nextSeq ≤ next.nextSeq := by
  cases change <;> omega

theorem progress (change : Change state next) (present : state.receiver receiver = some content) :
    ∃ later, next.receiver receiver = some later ∧ Progress state content later := by
  cases change with
  | kept _ _ receivers | sent _ _ _ receivers =>
    rw [receivers]
    exact ⟨content, present, .kept⟩
  | added other fresh _ _ receivers =>
    have different : receiver ≠ other := by
      rintro rfl
      rw [fresh] at present
      cases present
    rw [receivers, update_of_ne different]
    exact ⟨content, present, .kept⟩
  | progressed other old later found progress _ _ receivers =>
    rw [receivers]
    by_cases same : receiver = other
    · subst same
      rw [found] at present
      cases present
      exact ⟨later, update_self .., progress⟩
    · rw [update_of_ne same]
      exact ⟨content, present, .kept⟩

theorem origin (change : Change state next) (found : next.receiver receiver = some later) :
    (∃ content, state.receiver receiver = some content ∧ Progress state content later) ∨
      later = ⟨true, state.nextSeq, state.nextSeq, []⟩ := by
  cases present : state.receiver receiver with
  | some content =>
    rcases change.progress present with ⟨same, found', progress⟩
    rw [found] at found'
    cases found'
    exact .inl ⟨content, rfl, progress⟩
  | none =>
    right
    cases change with
    | kept _ _ receivers | sent _ _ _ receivers =>
      rw [receivers, present] at found
      cases found
    | added other _ _ _ receivers =>
      rw [receivers] at found
      by_cases same : receiver = other
      · subst same
        rw [update_self] at found
        exact (Option.some.inj found).symm
      · rw [update_of_ne same, present] at found
        cases found
    | progressed other old _ known _ _ _ receivers =>
      have different : receiver ≠ other := by
        rintro rfl
        rw [known] at present
        cases present
      rw [receivers, update_of_ne different, present] at found
      cases found

end Change

end Progress

/-! ## The accounting -/

/-- The last receiver that was counted in the slot reads the value or leaves. -/
def LastLeaves (state next : BroadcastState capacity Receiver Future Value) (seq : Nat) : Prop :=
  next.counted seq = 0 ∧ ∃ receiver content later,
    state.receiver receiver = some content ∧ content.awaits seq ∧
    next.receiver receiver = some later ∧
    (later.active = false ∨ content.cursor = seq ∧ later.cursor = seq + 1)

structure SlotAccounting [DecidableEq Receiver] [DecidableEq Future]
    (state : BroadcastState capacity Receiver Future Value) : Prop where
  counted : ∀ seq, state.oldestSeq ≤ seq → seq < state.nextSeq →
    (state.slotOf seq).remaining = state.counted seq
  held : ∀ seq, state.oldestSeq ≤ seq → seq < state.nextSeq →
    ((state.slotOf seq).value.isSome ↔ 0 < (state.slotOf seq).remaining)
  /-- A value is neither moved from nor overwritten. -/
  genuine : ∀ seq, state.oldestSeq ≤ seq → seq < state.nextSeq → ∀ value,
    (state.slotOf seq).value = some value → state.log[seq]? = some value
  asserts : state.failed = false
  released : ∀ move next, state.step move = some next → ∀ seq, state.Retains seq →
    (state.slotOf seq).value.isSome →
      (¬ (next.Retains seq ∧ (next.slotOf seq).value.isSome) ↔
        seq < next.oldestSeq ∨ LastLeaves state next seq)

namespace Accounted

theorem held_iff (accounted : Accounted state) (retains : state.Retains seq) :
    (state.slotOf seq).value.isSome ↔ 0 < state.counted seq := by
  have present : seq < state.log.length := by
    rw [accounted.logged]
    exact retains.2
  rw [accounted.slots seq retains, List.getElem?_eq_getElem present]
  simp only [RingSlot.of]
  split <;> simp <;> omega

variable [DecidableEq Receiver] [DecidableEq Future]

theorem lastLeaves (accounted : Accounted state) (effect : Effect state move next)
    (retains : state.Retains seq) (some : 0 < state.counted seq) (none : next.counted seq = 0) :
    LastLeaves state next seq := by
  rcases List.countP_pos_iff.mp some with ⟨receiver, _, awaits⟩
  cases present : state.receiver receiver with
  | none => simp [BroadcastState.awaits, present] at awaits
  | some content =>
    have awaited : content.awaits seq := by
      simpa [BroadcastState.awaits, present, ReceiverState.awaits] using awaits
    rcases (accounted.change effect).progress present with ⟨later, found, progress⟩
    have read : later.awaits seq = false := by
      have registered := (accounted.step effect).registered receiver (by simp [found])
      have absent := List.countP_eq_zero.mp none receiver registered
      simpa [BroadcastState.awaits, found, ReceiverState.awaits] using absent
    refine ⟨none, receiver, content, later, present, awaited, found, ?_⟩
    cases progress with
    | kept =>
      rw [read] at awaited
      cases awaited
    | retired => exact .inl rfl
    | answered answer cursor active answered =>
      simp only [ReceiverState.awaits, active, Bool.true_and, decide_eq_true_eq,
        decide_eq_false_iff_not] at awaited read
      cases answered with
      | value =>
        right
        dsimp only
        omega
      | lagged => exact absurd retains.1 read
      | closed | nothing => exact absurd awaited read

theorem slotAccounting (accounted : Accounted state) : SlotAccounting state := by
  constructor
  · intro seq above below
    rw [accounted.slots seq ⟨above, below⟩]
    rfl
  · intro seq above below
    rw [accounted.held_iff ⟨above, below⟩, accounted.slots seq ⟨above, below⟩]
    rfl
  · intro seq above below value found
    rw [accounted.slots seq ⟨above, below⟩] at found
    simp only [RingSlot.of] at found
    split at found
    · cases found
    · exact found
  · exact accounted.intact
  · intro move next step seq retains held
    have effect := effect step
    have later := accounted.step effect
    constructor
    · intro gone
      by_cases evicted : seq < next.oldestSeq
      · exact .inl evicted
      · have retained : next.Retains seq :=
          ⟨Nat.le_of_not_lt evicted,
            Nat.lt_of_lt_of_le retains.2 (accounted.change effect).nextSeq_le⟩
        have unheld : ¬ 0 < next.counted seq := fun counted =>
          gone ⟨retained, (later.held_iff retained).mpr counted⟩
        exact .inr (accounted.lastLeaves effect retains ((accounted.held_iff retains).mp held)
          (Nat.eq_zero_of_not_pos unheld))
    · rintro (evicted | ⟨none, _⟩) ⟨retained, holds⟩
      · exact Nat.not_lt_of_le retained.1 evicted
      · have counted := (later.held_iff retained).mp holds
        omega

end Accounted

section Runs

variable [DecidableEq Receiver] [DecidableEq Future] {first : Receiver}

theorem accounted_of_reaches
    (reached : (broadcastMachine capacity Value first).Reaches anyMove state) :
    Accounted state := by
  refine reached.invariant Accounted ?_ ?_
  · intro state move next accounted _ step
    exact accounted.step (effect step)
  · constructor
    · exact List.nodup_singleton first
    · intro receiver present
      by_cases same : receiver = first
      · exact List.mem_singleton.mpr same
      · simp [broadcastMachine, newChannel, update_of_ne same] at present
    · simp [broadcastMachine, newChannel, BroadcastState.isActive]
    · rfl
    · intro receiver content found
      by_cases same : receiver = first
      · subst same
        simp only [broadcastMachine, newChannel, update_self, Option.some.injEq] at found
        subst found
        exact le_refl _
      · simp [broadcastMachine, newChannel, update_of_ne same] at found
    · intro seq retains
      exact absurd retains.2 (Nat.not_lt_zero seq)
    · rfl

theorem slot_accounting (capacity : Nat) [NeZero capacity] (first : Receiver)
    {state : BroadcastState capacity Receiver Future Value}
    (reached : (broadcastMachine capacity Value first).Reaches anyMove state) :
    SlotAccounting state :=
  (accounted_of_reaches reached).slotAccounting

end Runs

/-- One of two receivers has lagged by one value and the other has left when a third value
is sent into a ring of two slots. -/
theorem slot_accounting_wrapped :
    ∃ state : BroadcastState 2 Nat Nat Nat,
      (broadcastMachine 2 Nat 0).Reaches anyMove state ∧
      state.oldestSeq = 1 ∧ state.nextSeq = 3 ∧ state.counted 2 = 1 ∧ SlotAccounting state := by
  refine exists_of_exec
    [.subscribe 1, .send 10, .send 11, .tryRecv 1, .closeReceiver 1, .send 12]
    (by decide +kernel) fun reached => ⟨?_, ?_, ?_, slot_accounting 2 0 reached⟩
  all_goals decide +kernel

end CoroRuntime.Broadcast
