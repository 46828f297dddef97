import CoroRuntime.RunQueue.Ownership

/-! # Every move keeps the rings in order -/

namespace CoroRuntime.RunQueue

open Foundation
open Function (update update_self update_of_ne)

variable {Worker T : Type}

theorem toNat_stealCount (avail : Index) :
    (QueueState.stealCount avail).toNat = avail.toNat - avail.toNat / 2 := by
  have half : (avail / 2).toNat = avail.toNat / 2 := by
    simp [BitVec.toNat_udiv]
  rw [QueueState.stealCount, BitVec.toNat_sub_of_le, half]
  rw [BitVec.le_def, half]
  exact Nat.div_le_self _ _

namespace Ordered

variable {ring : Worker → LocalRunQueueInner T} {activity : Worker → Activity Worker T}
  {worker : Worker}

variable (ordered : Ordered ring activity)

include ordered

/-- The owner's loads and exchanges see a head less than a ring old. -/
theorem owner_current (snapshot : (ring worker).Snapshot word steal real)
    (near : (ring worker).tailPos ≤ steal + localQueueCapacity)
    (unchanged : (ring worker).head = word) :
    (ring worker).stealPos = steal ∧ (ring worker).realPos = real := by
  have wellFormed := ordered.wellFormed worker
  have steal_le := wellFormed.steal_le
  have real_le := wellFormed.real_le
  rw [capacity_eq] at near
  exact snapshot.current wellFormed unchanged (by omega)

/-- What the owner computes as the length from a tail it has read before. -/
theorem toNat_len (room : (ring worker).Room tail count) :
    (queueLen (unpack (ring worker).head).1 tail).toNat =
      (ring worker).tailPos - (ring worker).stealPos := by
  have wellFormed := ordered.wellFormed worker
  rw [← wellFormed.toNat_len, wellFormed.tail_eq, ← room.tail_eq]

theorem owner_snapshot :
    ∃ steal real, (ring worker).Snapshot (ring worker).head steal real ∧
      (ring worker).tailPos ≤ steal + localQueueCapacity :=
  ⟨_, _, (ordered.wellFormed worker).snapshot, (ordered.wellFormed worker).tail_le⟩

theorem pushDecision_consistent (snapshot : (ring worker).Snapshot headVal steal real)
    (near : (ring worker).tailPos ≤ steal + localQueueCapacity) (task : T)
    (others : Worker → Activity Worker T) :
    (QueueState.pushDecision task headVal (ring worker).tail).Consistent ring others worker := by
  have wellFormed := ordered.wellFormed worker
  have steal_le := snapshot.steal_le
  have capacity := capacity_eq
  have atMost := wellFormed.steal_le.trans wellFormed.real_le
  have len : (queueLen (index steal) (index (ring worker).tailPos)).toNat =
      (ring worker).tailPos - steal := toNat_queueLen (by omega) (by omega)
  unfold QueueState.pushDecision
  rw [snapshot.word_eq, wellFormed.tail_eq, unpack_headAt]
  simp only [len]
  split
  · exact ⟨rfl, by omega⟩
  · split
    · trivial
    · rename_i full notStealing
      have same : steal = real :=
        eq_of_index_eq snapshot.ordered (by have := snapshot.near; omega)
          (not_not.mp notStealing)
      subst same
      rw [if_pos (by rw [len]; omega)]
      exact ⟨steal, rfl, rfl, by omega, steal_le⟩

theorem stealDecision_consistent (apart : victim ≠ worker)
    (room : (ring worker).Room dstTail numTaken) (snapshot : (ring victim).Snapshot prev seen real)
    (others : Worker → Activity Worker T) :
    (QueueState.stealDecision victim dstTail prev (ring victim).tail seen :
      Activity Worker T).Consistent ring others worker := by
  have wellFormed := ordered.wellFormed victim
  unfold QueueState.stealDecision
  rw [snapshot.word_eq, wellFormed.tail_eq, unpack_headAt]
  simp only
  split
  · trivial
  · split
    · trivial
    · rename_i notStealing some
      have same : seen = real :=
        eq_of_index_eq snapshot.ordered
          (by have := snapshot.near; have := capacity_eq; omega) (not_not.mp notStealing)
      subst same
      split
      · rename_i wraps
        exact some (BitVec.self_eq_add_right.mp wraps)
      · have seen_le := snapshot.steal_le.trans (wellFormed.steal_le.trans wellFormed.real_le)
        rw [← snapshot.word_eq]
        exact ⟨apart, room, snapshot, some, _, seen_le, le_rfl, rfl⟩

omit ordered in
theorem stealDecision_stealing (victim : Worker) (dstTail : Index) (prev : BitVec 64)
    (srcTail : Index) (seen : Nat) :
    (QueueState.stealDecision victim dstTail prev srcTail seen :
      Activity Worker T).stealing = none := by
  unfold QueueState.stealDecision
  simp only
  split_ifs <;> rfl

omit ordered in
theorem pushDecision_stealing (task : T) (headVal : BitVec 64) (tail : Index) :
    (QueueState.pushDecision task headVal tail : Activity Worker T).stealing = none := by
  unfold QueueState.pushDecision
  simp only
  split_ifs <;> rfl

/-! ## What the exchanges and stores do -/

/-- The claim of the whole ring succeeds only while it is full and no steal is
under way. -/
theorem overflowClaim_ring (head_eq : head = index steal)
    (tail_eq : tail = index (ring worker).tailPos)
    (full : (ring worker).tailPos = steal + localQueueCapacity)
    (steal_le : steal ≤ (ring worker).stealPos) (unchanged : (ring worker).head = pack head head) :
    (ring worker).stealPos = steal ∧ (ring worker).realPos = steal ∧
      (ring worker).setHead (pack tail tail) =
        (ring worker).moveHead (ring worker).tailPos (ring worker).tailPos := by
  have wellFormed := ordered.wellFormed worker
  have snapshot : (ring worker).Snapshot (headAt steal steal) steal steal :=
    ⟨rfl, steal_le, le_rfl, steal_le.trans wellFormed.steal_le, Nat.le_add_right _ _⟩
  have current := ordered.owner_current snapshot full.le (by rw [unchanged, head_eq]; rfl)
  refine ⟨current.1, current.2, ?_⟩
  rw [tail_eq]
  exact wellFormed.setHead (wellFormed.steal_le.trans wellFormed.real_le) wellFormed.real_le
    le_rfl le_rfl

/-- A `pop` takes both halves of the head along, unless a steal is under way. -/
theorem popClaim_ring (snapshot : (ring worker).Snapshot headVal steal real)
    (near : (ring worker).tailPos ≤ steal + localQueueCapacity)
    (below : real < (ring worker).tailPos) (unchanged : (ring worker).head = headVal) :
    (unpack headVal).2 = index (ring worker).realPos ∧
      (ring worker).realPos < (ring worker).tailPos ∧
      ∃ settled, (settled = (ring worker).stealPos ∧
            (ring worker).stealPos < (ring worker).realPos ∨
          settled = (ring worker).realPos + 1 ∧
            (ring worker).stealPos = (ring worker).realPos) ∧
        (ring worker).setHead (QueueState.popNext headVal) =
          (ring worker).moveHead settled ((ring worker).realPos + 1) := by
  have wellFormed := ordered.wellFormed worker
  have current := ordered.owner_current snapshot near unchanged
  have steal_le := wellFormed.steal_le
  have word : headVal = headAt (ring worker).stealPos (ring worker).realPos := by
    rw [snapshot.word_eq, current.1, current.2]
  rw [← current.2] at below
  refine ⟨by rw [word, unpack_headAt], below, ?_⟩
  rw [word]
  unfold QueueState.popNext
  simp only [unpack_headAt, index_succ]
  by_cases settled : (ring worker).stealPos = (ring worker).realPos
  · refine ⟨_, .inr ⟨rfl, settled⟩, ?_⟩
    rw [if_pos (by rw [settled])]
    exact wellFormed.setHead (by omega) (by omega) le_rfl (by omega)
  · have distinct : index (ring worker).stealPos ≠ index (ring worker).realPos := by
      intro equal
      have real_le := wellFormed.real_le.trans wellFormed.tail_le
      have capacity := capacity_eq
      exact settled (eq_of_index_eq steal_le (by omega) equal)
    refine ⟨_, .inl ⟨rfl, by omega⟩, ?_⟩
    rw [if_neg distinct]
    exact wellFormed.setHead le_rfl (by omega) (by omega) (by omega)

/-- A thief's claim succeeds only while no steal is under way, and takes at most
half a ring. -/
theorem stealClaim_ring (snapshot : (ring victim).Snapshot prev seen seen) (some : n ≠ 0)
    (seen_le : seen ≤ tail) (tail_le : tail ≤ (ring victim).tailPos)
    (count : n = QueueState.stealCount (index tail - index seen))
    (near : (ring victim).stealPos < seen + 2 ^ 32) (unchanged : (ring victim).head = prev) :
    (ring victim).stealPos = (ring victim).realPos ∧ 0 < n.toNat ∧ n.toNat ≤ numTaken ∧
      (ring victim).realPos + n.toNat ≤ (ring victim).tailPos ∧
      (unpack prev).1 = index (ring victim).stealPos ∧
      (ring victim).setHead (pack (unpack prev).1 ((unpack prev).2 + n)) =
        (ring victim).moveHead (ring victim).stealPos ((ring victim).realPos + n.toNat) := by
  have wellFormed := ordered.wellFormed victim
  have current := snapshot.current wellFormed unchanged near
  have atMost := wellFormed.tail_le
  have capacity := capacity_eq
  have avail : (index tail - index seen).toNat = tail - seen :=
    toNat_ofNat_sub_ofNat seen_le (by omega)
  have taken := toNat_stealCount (index tail - index seen)
  rw [← count, avail] at taken
  have positive : 0 < n.toNat := by
    rw [Nat.pos_iff_ne_zero]
    intro zero
    exact some (BitVec.eq_of_toNat_eq zero)
  have half := numTaken_eq
  refine ⟨by omega, positive, by omega, by omega, ?_, ?_⟩
  · rw [snapshot.word_eq, unpack_headAt, current.1]
  · have claimed : pack (unpack prev).1 ((unpack prev).2 + n) =
        headAt (ring victim).stealPos ((ring victim).realPos + n.toNat) := by
      rw [snapshot.word_eq, unpack_headAt, current.1, current.2, headAt, ← index_add,
        BitVec.ofNat_toNat, BitVec.setWidth_eq]
    rw [claimed]
    exact wellFormed.setHead le_rfl (by omega) (by omega) (by omega)

/-- The release succeeds only with the current `real`, which the owner may have
advanced in the meantime. -/
theorem stealRelease_ring (snapshot : (ring victim).Snapshot prev (ring victim).stealPos real)
    (unchanged : (ring victim).head = prev) :
    (ring victim).setHead (pack (unpack prev).2 (unpack prev).2) =
      (ring victim).moveHead (ring victim).realPos (ring victim).realPos := by
  have wellFormed := ordered.wellFormed victim
  have current := snapshot.current wellFormed unchanged (by omega)
  rw [snapshot.word_eq, unpack_headAt, ← current.2]
  exact wellFormed.setHead wellFormed.steal_le le_rfl le_rfl wellFormed.real_le

/-- The owner's store of the tail exposes the slots it has filled. -/
theorem storeTail_ring (free : (ring worker).Room tail room) (fits : count ≤ room) :
    (ring worker).storeTail (tail + BitVec.ofNat 32 count) =
        (ring worker).moveTail ((ring worker).tailPos + count) ∧
      ((ring worker).moveTail ((ring worker).tailPos + count)).WellFormed := by
  have wellFormed := ordered.wellFormed worker
  have near := free.fits
  rw [free.tail_eq, index_add]
  exact ⟨wellFormed.storeTail (by omega) (by omega), wellFormed.moveTail (by omega) (by omega)⟩

end Ordered

/-! ## The moves -/

namespace QueueState

def InOrder (state : QueueState Worker T) : Prop :=
  Ordered state.ring state.activity

section Moves

theorem InOrder.suits {state : QueueState Worker T} (inOrder : state.InOrder)
    (located : state.activity worker = now) : now.Consistent state.ring state.activity worker :=
  located ▸ inOrder.consistent worker

variable [DecidableEq Worker] {state next : QueueState Worker T} {worker : Worker}

variable (inOrder : state.InOrder)

include inOrder

theorem InOrder.overflowClaim (located : state.activity worker = .overflowClaim task head tail) :
    (state.overflowClaim worker weak task head tail).InOrder := by
  rcases inOrder.suits located with ⟨steal, head_eq, tail_eq, full, steal_le⟩
  unfold QueueState.overflowClaim
  simp only
  split
  · rename_i unchanged
    rcases inOrder.overflowClaim_ring head_eq tail_eq full steal_le unchanged.2 with
      ⟨stealPos, realPos, changed⟩
    have wellFormed := inOrder.wellFormed worker
    rw [changed]
    refine inOrder.setOwn ?_ ?_ ?_ ?_ located rfl ?_
    · exact wellFormed.moveHead (wellFormed.steal_le.trans wellFormed.real_le) le_rfl le_rfl
    · exact ⟨wellFormed.steal_le.trans wellFormed.real_le, wellFormed.real_le, le_rfl⟩
    · exact .inr (by omega)
    · exact fun lags => (lt_irrefl _ lags).elim
    · refine ⟨steal, head_eq, ?_, ?_, ?_⟩ <;>
        simp only [update_self, LocalRunQueueInner.moveHead]
      · exact tail_eq
      · exact full
  · exact inOrder.goto located rfl trivial

theorem InOrder.popClaim (located : state.activity worker = .popClaim headVal) :
    (state.popClaim worker weak headVal).InOrder := by
  rcases inOrder.suits located with ⟨steal, real, snapshot, near, below⟩
  unfold QueueState.popClaim
  simp only
  split
  · rename_i unchanged
    rcases inOrder.popClaim_ring snapshot near below unchanged.2 with
      ⟨taken, nonempty, settled, which, changed⟩
    have wellFormed := inOrder.wellFormed worker
    have steal_le := wellFormed.steal_le
    have tail_le := wellFormed.tail_le
    rw [changed, taken]
    refine inOrder.setOwn ?_ ?_ ?_ ?_ located rfl ?_
    · exact wellFormed.moveHead (by omega) (by omega) (by omega)
    · exact ⟨by simp only [LocalRunQueueInner.moveHead]; omega,
        by simp only [LocalRunQueueInner.moveHead]; omega, le_rfl⟩
    · simp only [LocalRunQueueInner.moveHead]
      omega
    · simp only [LocalRunQueueInner.moveHead]
      omega
    · refine ⟨(state.ring worker).realPos, rfl, ?_, ?_, ?_⟩ <;>
        simp only [update_self, LocalRunQueueInner.moveHead]
      · omega
      · omega
      · rcases which with ⟨same, lags⟩ | ⟨same, _⟩
        · rcases inOrder.someThief worker lags with ⟨thief, n, stealing⟩
          have within := inOrder.stealing_within stealing
          have other : thief ≠ worker := by
            intro same
            subst same
            rw [located] at stealing
            exact nomatch stealing
          exact .inr ⟨thief, n, by simpa [other] using stealing, by omega⟩
        · exact .inl (by omega)
  · exact inOrder.goto located rfl (inOrder.owner_snapshot)

theorem InOrder.stealClaim
    (located : state.activity worker = .stealClaim victim dstTail prev n seen)
    (near : (state.ring victim).stealPos < seen + 2 ^ 32) :
    (state.stealClaim worker weak victim dstTail prev n).InOrder := by
  rcases inOrder.suits located with ⟨apart, room, snapshot, some, tail, seen_le, tail_le, count⟩
  unfold QueueState.stealClaim
  simp only
  split
  · rename_i unchanged
    rcases inOrder.stealClaim_ring snapshot some seen_le tail_le count near unchanged.2
      with ⟨settled, positive, half, claimed, first, changed⟩
    have wellFormed := inOrder.wellFormed victim
    have near_tail := wellFormed.tail_le
    rw [changed, if_pos (show n.toNat ≤ localQueueCapacity / 2 from half), unpack_pack]
    simp only
    refine inOrder.setVictim ?_ ?_ rfl ?_ ?_ ?_ ?_ ?_
    · exact wellFormed.moveHead le_rfl (by omega) (by omega)
    · exact ⟨le_rfl, by simp only [LocalRunQueueInner.moveHead]; omega, le_rfl⟩
    · intro thief _ count stealing
      rfl
    · intro other count stealing
      rw [located] at stealing
      exact nomatch stealing
    · rintro other count ⟨⟩
      exact ⟨rfl, settled⟩
    · intro _
      exact ⟨n.toNat, rfl⟩
    · refine ⟨apart, ?_, positive, half, ?_, ?_, ?_⟩
      · simpa [apart.symm] using room
      · simpa [LocalRunQueueInner.moveHead] using first
      · simp only [update_self, LocalRunQueueInner.moveHead]
        omega
      · simp only [update_self]
        have word : prev = headAt (state.ring victim).stealPos (state.ring victim).stealPos := by
          rw [← unchanged.2, wellFormed.head_eq, ← settled]
        exact ⟨word, le_rfl, le_rfl, by simp only [LocalRunQueueInner.moveHead]; omega,
          Nat.le_add_right _ _⟩
  · exact inOrder.goto located rfl
      ⟨apart, room, _, (inOrder.wellFormed victim).snapshot⟩

theorem InOrder.stealMove
    (located : state.activity worker = .stealMove victim dstTail prev first n i) :
    (state.stealMove worker victim dstTail prev first n i).InOrder := by
  rcases inOrder.suits located with ⟨apart, room, below, half, first_eq, claimed, snapshot⟩
  have wellFormed := inOrder.wellFormed worker
  unfold QueueState.stealMove
  simp only
  refine inOrder.setOwn (wellFormed.write _ _) ⟨le_rfl, le_rfl, le_rfl⟩ (.inl rfl) id located
    ?_ ?_
  · split <;> rfl
  · have kept : (update state.ring worker ((state.ring worker).write
        (dstTail + BitVec.ofNat 32 i) ((state.ring victim).read (first + BitVec.ofNat 32 i)))
        worker).Room dstTail numTaken := by
      simpa using ⟨room.tail_eq, room.fits⟩
    split
    · rename_i more
      refine ⟨apart, kept, more, half, ?_⟩
      rw [update_of_ne apart]
      exact ⟨first_eq, claimed, snapshot⟩
    · refine ⟨apart, kept, by omega, half, ?_⟩
      rw [update_of_ne apart]
      exact ⟨claimed, _, snapshot⟩

theorem InOrder.stealRelease
    (located : state.activity worker = .stealRelease victim dstTail prev n) :
    (state.stealRelease worker weak victim dstTail prev n).InOrder := by
  rcases inOrder.suits located with ⟨apart, room, some, half, claimed, real, snapshot⟩
  have wellFormed := inOrder.wellFormed victim
  unfold QueueState.stealRelease
  simp only
  split
  · rename_i unchanged
    rw [inOrder.stealRelease_ring snapshot unchanged.2]
    refine inOrder.setVictim ?_ ?_ rfl ?_ ?_ ?_ ?_ ?_
    · exact wellFormed.moveHead wellFormed.steal_le le_rfl wellFormed.real_le
    · exact ⟨wellFormed.steal_le, le_rfl, le_rfl⟩
    · intro thief different count stealing
      exact (different (inOrder.oneThief _ _ _ _ _ stealing (by rw [located]; rfl))).elim
    · intro other count stealing
      rw [located] at stealing
      cases stealing
      exact ⟨rfl, rfl⟩
    · rintro other count ⟨⟩
    · exact fun lags => (lt_irrefl _ lags).elim
    · exact ⟨by simpa [apart.symm] using room, some, half⟩
  · exact inOrder.goto located rfl
      ⟨apart, room, some, half, claimed, _, wellFormed.snapshot⟩

theorem InOrder.storeTail (free : (state.ring worker).Room tail room) (fits : count ≤ room)
    (located : state.activity worker = now) (same : after.stealing = now.stealing)
    (consistent : after.Consistent
      (update state.ring worker
        ((state.ring worker).moveTail ((state.ring worker).tailPos + count)))
      (update state.activity worker after) worker) :
    Ordered
      (update state.ring worker
        ((state.ring worker).storeTail (tail + BitVec.ofNat 32 count)))
      (update state.activity worker after) := by
  rcases inOrder.storeTail_ring free fits with ⟨changed, wellFormed⟩
  rw [changed]
  exact inOrder.setOwn wellFormed ⟨le_rfl, le_rfl, Nat.le_add_right _ _⟩ (.inl rfl) id
    located same consistent

theorem InOrder.advance (admitted : withinContract state (.advance worker weak))
    (stepped : state.advance worker weak = some next) : next.InOrder := by
  have consistent := inOrder.consistent worker
  have wellFormed := inOrder.wellFormed worker
  have capacity := capacity_eq
  have half := numTaken_eq
  cases located : state.activity worker <;>
    simp only [QueueState.advance, located, Option.some.injEq, reduceCtorEq] at stepped <;>
    (try subst stepped) <;> rw [located] at consistent
  case pushBackLoadTail task =>
    exact inOrder.goto located rfl ⟨wellFormed.tail_eq, consistent⟩
  case pushBackLoadHead task tail =>
    have fits := consistent.fits
    rw [if_pos (by rw [inOrder.toNat_len consistent]; omega)]
    exact inOrder.goto located rfl consistent
  case pushLoadHead task | popLoadHead =>
    exact inOrder.goto located rfl (inOrder.owner_snapshot)
  case pushLoadTail task headVal =>
    rcases consistent with ⟨steal, real, snapshot, near⟩
    exact inOrder.goto located (Ordered.pushDecision_stealing _ _ _)
      (inOrder.pushDecision_consistent snapshot near task _)
  case overflowSingle task | overflowBatch batch | popMove real | returning ret =>
    exact inOrder.goto located rfl trivial
  case overflowClaim task head tail =>
    exact inOrder.overflowClaim located
  case overflowReexpose task head tail =>
    rcases consistent with ⟨steal, head_eq, tail_eq, full, empty⟩
    have free : (state.ring worker).Room tail numTaken := ⟨tail_eq, by omega⟩
    refine InOrder.storeTail inOrder free le_rfl located rfl
      ⟨steal, head_eq, ?_, ?_, by rw [half]; exact Nat.zero_lt_succ _⟩ <;>
      simp only [update_self, LocalRunQueueInner.moveTail] <;> omega
  case overflowMove task head batch =>
    rcases consistent with ⟨steal, head_eq, tail_eq, past, filled⟩
    apply inOrder.goto located (by split <;> rfl)
    split
    · rename_i more
      exact ⟨steal, head_eq, tail_eq, past, more⟩
    · trivial
  case finishWrite task tail =>
    refine inOrder.setOwn (wellFormed.write _ _) ⟨le_rfl, le_rfl, le_rfl⟩ (.inl rfl) id
      located rfl ?_
    simpa [Activity.Consistent] using ⟨consistent.tail_eq, consistent.fits⟩
  case finishStore tail =>
    exact InOrder.storeTail inOrder consistent le_rfl located rfl trivial
  case popLoadTail headVal =>
    rcases consistent with ⟨steal, real, snapshot, near⟩
    apply inOrder.goto located (by split <;> rfl)
    split
    · trivial
    · rename_i nonempty
      rw [snapshot.word_eq, wellFormed.tail_eq, unpack_headAt] at nonempty
      have apart : real ≠ (state.ring worker).tailPos := fun equal => nonempty (by rw [equal])
      have real_le := snapshot.real_le.trans wellFormed.real_le
      exact ⟨steal, real, snapshot, near, lt_of_le_of_ne real_le apart⟩
  case popClaim headVal =>
    exact inOrder.popClaim located
  case stealLoadDstTail victim =>
    exact inOrder.goto located rfl
      ⟨consistent, wellFormed.tail_eq, wellFormed.tail_le⟩
  case stealLoadDstHead victim dstTail =>
    apply inOrder.goto located (by split <;> rfl)
    split
    · trivial
    · rename_i halfFull
      rw [inOrder.toNat_len consistent.2] at halfFull
      have room : (state.ring worker).tailPos + numTaken ≤
          (state.ring worker).stealPos + localQueueCapacity := by omega
      exact ⟨consistent.1, consistent.2.tail_eq, room⟩
  case stealLoadHead victim dstTail =>
    exact inOrder.goto located rfl
      ⟨consistent.1, consistent.2, _, (inOrder.wellFormed victim).snapshot⟩
  case stealLoadTail victim dstTail prev seen =>
    rcases consistent with ⟨apart, room, real, snapshot⟩
    exact inOrder.goto located (Ordered.stealDecision_stealing _ _ _ _ _)
      (inOrder.stealDecision_consistent apart room snapshot _)
  case stealClaim victim dstTail prev n seen =>
    refine inOrder.stealClaim located (admitted (victim, seen) ?_)
    rw [located]
    rfl
  case stealMove victim dstTail prev first n i =>
    exact inOrder.stealMove located
  case stealRelease victim dstTail prev n =>
    exact inOrder.stealRelease located
  case stealTake dstTail n =>
    rcases consistent with ⟨room, some, half⟩
    apply inOrder.goto located (by split <;> rfl)
    split
    · exact ⟨room, by omega, by omega⟩
    · trivial
  case stealPublish dstTail n ret =>
    exact InOrder.storeTail inOrder consistent.1 consistent.2.2 located rfl trivial

theorem InOrder.start (idle : state.activity worker = .idle)
    (admitted : withinContract state (.start worker operation))
    (stepped : state.start worker operation = some next) : next.InOrder := by
  cases operation with
  | pushBack task =>
    cases stepped
    have toNat_len := (inOrder.wellFormed worker).toNat_len
    have shorter : (queueLen (unpack (state.ring worker).head).1
      (state.ring worker).tail).toNat < localQueueCapacity := admitted
    have room : (state.ring worker).tailPos + 1 ≤
        (state.ring worker).stealPos + localQueueCapacity := by omega
    exact inOrder.goto idle rfl room
  | pushOrOverflow task | pop =>
    cases stepped
    exact inOrder.goto idle rfl trivial
  | stealInto victim =>
    rcases of_unless stepped with ⟨apart, rfl⟩
    exact inOrder.goto idle rfl apart

theorem InOrder.step (admitted : withinContract state move)
    (stepped : state.step move = some next) :
    next.InOrder := by
  cases move with
  | start worker operation =>
    simp only [QueueState.step] at stepped
    split at stepped
    · rename_i idle
      exact inOrder.start idle admitted stepped
    · cases stepped
  | advance worker weak => exact inOrder.advance admitted stepped

end Moves

theorem inOrder_empty [Inhabited T] : (emptyQueues Worker T).InOrder where
  wellFormed := fun _ => LocalRunQueueInner.wellFormed_empty
  consistent := fun _ => trivial
  oneThief := fun _ _ _ _ _ stealing => nomatch stealing
  someThief := fun _ lags => (lt_irrefl _ lags).elim

end QueueState

end CoroRuntime.RunQueue
