import CoroRuntime.RunQueue.Positions

/-! # Who owns which part of a ring

What each worker knows about its own ring and its victim's while it is in the
middle of an operation, and that every move keeps it so.
-/

namespace CoroRuntime.RunQueue

open Foundation
open Function (update update_self update_of_ne)

theorem capacity_eq : localQueueCapacity = 256 :=
  rfl

theorem numTaken_eq : numTaken = 128 :=
  rfl

variable {Worker T : Type}

/-- The victim and the number of claimed tasks, between the two exchanges of a
steal. -/
def Activity.stealing : Activity Worker T → Option (Worker × Nat)
  | .stealMove victim _ _ _ n _ | .stealRelease victim _ _ n => some (victim, n)
  | _ => none

namespace LocalRunQueueInner

/-- `word` has been the head of the ring, at these positions. -/
structure Snapshot (ring : LocalRunQueueInner T) (word : BitVec 64) (steal real : Nat) :
    Prop where
  word_eq : word = headAt steal real
  steal_le : steal ≤ ring.stealPos
  ordered : steal ≤ real
  real_le : real ≤ ring.realPos
  near : real ≤ steal + localQueueCapacity

/-- `tail` is the tail of the ring and the next `count` slots are free. -/
structure Room (ring : LocalRunQueueInner T) (tail : Index) (count : Nat) : Prop where
  tail_eq : tail = index ring.tailPos
  fits : ring.tailPos + count ≤ ring.stealPos + localQueueCapacity

structure Grows (before after : LocalRunQueueInner T) : Prop where
  steal_le : before.stealPos ≤ after.stealPos
  real_le : before.realPos ≤ after.realPos
  tail_le : before.tailPos ≤ after.tailPos

theorem Grows.refl (ring : LocalRunQueueInner T) : Grows ring ring :=
  ⟨le_rfl, le_rfl, le_rfl⟩

theorem WellFormed.snapshot {ring : LocalRunQueueInner T} (wellFormed : ring.WellFormed) :
    ring.Snapshot ring.head ring.stealPos ring.realPos where
  word_eq := wellFormed.head_eq
  steal_le := le_rfl
  ordered := wellFormed.steal_le
  real_le := le_rfl
  near := wellFormed.real_le.trans wellFormed.tail_le

theorem Snapshot.grows (snapshot : before.Snapshot word steal real) (grows : Grows before after) :
    after.Snapshot word steal real where
  word_eq := snapshot.word_eq
  steal_le := snapshot.steal_le.trans grows.steal_le
  ordered := snapshot.ordered
  real_le := snapshot.real_le.trans grows.real_le
  near := snapshot.near

theorem Room.grows {tail : Index} (room : before.Room tail count) (grows : Grows before after)
    (kept : after.tailPos = before.tailPos) : after.Room tail count where
  tail_eq := by rw [kept, room.tail_eq]
  fits := by
    rw [kept]
    exact room.fits.trans (Nat.add_le_add_right grows.steal_le _)

/-- A head word that is still there is at the positions it was read at, unless the
`steal` half has gone round since. -/
theorem Snapshot.current {ring : LocalRunQueueInner T} (snapshot : ring.Snapshot word steal real)
    (wellFormed : ring.WellFormed) (unchanged : ring.head = word)
    (near : ring.stealPos < steal + 2 ^ 32) : ring.stealPos = steal ∧ ring.realPos = real := by
  have halves := headAt_eq
    (wellFormed.head_eq.symm.trans (unchanged.trans snapshot.word_eq))
  have stealSame : steal = ring.stealPos :=
    eq_of_index_eq snapshot.steal_le near halves.1.symm
  have ordered := snapshot.ordered
  have real_le := wellFormed.real_le
  have tail_le := wellFormed.tail_le
  rw [capacity_eq] at tail_le
  have realSame : real = ring.realPos :=
    eq_of_index_eq snapshot.real_le (by omega) halves.2.symm
  exact ⟨stealSame.symm, realSame.symm⟩

end LocalRunQueueInner

def Activity.Consistent (ring : Worker → LocalRunQueueInner T)
    (activity : Worker → Activity Worker T) (worker : Worker) : Activity Worker T → Prop
  | .idle | .pushLoadHead _ | .overflowSingle _ | .overflowBatch _ | .popLoadHead
  | .returning _ => True
  | .pushBackLoadTail _ =>
    (ring worker).tailPos + 1 ≤ (ring worker).stealPos + localQueueCapacity
  | .pushBackLoadHead _ tail | .finishWrite _ tail | .finishStore tail =>
    (ring worker).Room tail 1
  | .pushLoadTail _ headVal | .popLoadTail headVal =>
    ∃ steal real, (ring worker).Snapshot headVal steal real ∧
      (ring worker).tailPos ≤ steal + localQueueCapacity
  | .overflowClaim _ head tail =>
    ∃ steal, head = index steal ∧ tail = index (ring worker).tailPos ∧
      (ring worker).tailPos = steal + localQueueCapacity ∧ steal ≤ (ring worker).stealPos
  | .overflowReexpose _ head tail =>
    ∃ steal, head = index steal ∧ tail = index (ring worker).tailPos ∧
      (ring worker).tailPos = steal + localQueueCapacity ∧
      (ring worker).stealPos = (ring worker).tailPos
  | .overflowMove _ head batch =>
    ∃ steal, head = index steal ∧
      (ring worker).tailPos = steal + localQueueCapacity + numTaken ∧
      steal + localQueueCapacity ≤ (ring worker).stealPos ∧ batch.length < numTaken
  | .popClaim headVal =>
    ∃ steal real, (ring worker).Snapshot headVal steal real ∧
      (ring worker).tailPos ≤ steal + localQueueCapacity ∧ real < (ring worker).tailPos
  | .popMove real =>
    ∃ position, real = index position ∧ position < (ring worker).realPos ∧
      (ring worker).tailPos ≤ position + localQueueCapacity ∧
      (position < (ring worker).stealPos ∨
        ∃ thief n, (activity thief).stealing = some (worker, n) ∧
          (ring worker).stealPos + n ≤ position)
  | .stealLoadDstTail victim => victim ≠ worker
  | .stealLoadDstHead victim dstTail => victim ≠ worker ∧ (ring worker).Room dstTail 0
  | .stealLoadHead victim dstTail => victim ≠ worker ∧ (ring worker).Room dstTail numTaken
  | .stealLoadTail victim dstTail prev seen =>
    victim ≠ worker ∧ (ring worker).Room dstTail numTaken ∧
      ∃ real, (ring victim).Snapshot prev seen real
  | .stealClaim victim dstTail prev n seen =>
    victim ≠ worker ∧ (ring worker).Room dstTail numTaken ∧
      (ring victim).Snapshot prev seen seen ∧ n ≠ 0 ∧
      ∃ tail, seen ≤ tail ∧ tail ≤ (ring victim).tailPos ∧
        n = QueueState.stealCount (index tail - index seen)
  | .stealMove victim dstTail prev first n i =>
    victim ≠ worker ∧ (ring worker).Room dstTail numTaken ∧ i < n ∧ n ≤ numTaken ∧
      first = index (ring victim).stealPos ∧
      (ring victim).stealPos + n ≤ (ring victim).realPos ∧
      (ring victim).Snapshot prev (ring victim).stealPos (ring victim).stealPos
  | .stealRelease victim dstTail prev n =>
    victim ≠ worker ∧ (ring worker).Room dstTail numTaken ∧ 0 < n ∧ n ≤ numTaken ∧
      (ring victim).stealPos + n ≤ (ring victim).realPos ∧
      ∃ real, (ring victim).Snapshot prev (ring victim).stealPos real
  | .stealTake dstTail n | .stealPublish dstTail n _ =>
    (ring worker).Room dstTail numTaken ∧ 0 < n ∧ n ≤ numTaken
  | .assertFailed => False

/-- The rings are in order, every worker knows what its place in the code implies,
and a ring whose `steal` lags behind has exactly one thief. -/
structure Ordered (ring : Worker → LocalRunQueueInner T)
    (activity : Worker → Activity Worker T) : Prop where
  wellFormed : ∀ worker, (ring worker).WellFormed
  consistent : ∀ worker, (activity worker).Consistent ring activity worker
  oneThief : ∀ left right victim leftCount rightCount,
    (activity left).stealing = some (victim, leftCount) →
    (activity right).stealing = some (victim, rightCount) → left = right
  someThief : ∀ victim, (ring victim).stealPos < (ring victim).realPos →
    ∃ thief n, (activity thief).stealing = some (victim, n)

/-! ## What a move leaves alone -/

/-- What the other workers can rely on when `worker` changes the rings to `after`
and goes on to `next`. -/
structure Effect (worker : Worker) (before after : Worker → LocalRunQueueInner T)
    (activity : Worker → Activity Worker T) (next : Activity Worker T) : Prop where
  wellFormed : ∀ owner, (after owner).WellFormed
  grows : ∀ owner, (before owner).Grows (after owner)
  tailKept : ∀ owner, owner ≠ worker → (after owner).tailPos = (before owner).tailPos
  othersKept : ∀ thief, thief ≠ worker → ∀ victim n,
    (activity thief).stealing = some (victim, n) →
    (after victim).stealPos = (before victim).stealPos
  ownKept : ∀ victim n, (activity worker).stealing = some (victim, n) →
    (next.stealing = some (victim, n) ∧ (after victim).stealPos = (before victim).stealPos) ∨
      (after victim).stealPos = (after victim).realPos

namespace Ordered

variable {ring after : Worker → LocalRunQueueInner T}
  {activity : Worker → Activity Worker T} {worker : Worker} {next : Activity Worker T}

variable (ordered : Ordered ring activity)

include ordered

theorem stealing_within (stealing : (activity thief).stealing = some (victim, n)) :
    0 < n ∧ (ring victim).stealPos + n ≤ (ring victim).realPos := by
  have consistent := ordered.consistent thief
  cases equal : activity thief <;> rw [equal] at stealing consistent <;>
    simp only [Activity.stealing, Option.some.injEq, Prod.mk.injEq, reduceCtorEq] at stealing
  all_goals
    rcases stealing with ⟨rfl, rfl⟩
    simp only [Activity.Consistent] at consistent
    omega

/-- Where no steal is under way nobody is between its exchanges. -/
theorem not_stealing (settled : (ring victim).stealPos = (ring victim).realPos) (thief : Worker)
    (n : Nat) : (activity thief).stealing ≠ some (victim, n) := by
  intro stealing
  have := ordered.stealing_within stealing
  omega

variable [DecidableEq Worker]

/-- The workers that do not move know after the move what they knew before. -/
theorem others_consistent (effect : Effect worker ring after activity next)
    (different : other ≠ worker) :
    (activity other).Consistent after (update activity worker next) other := by
  have consistent := ordered.consistent other
  have own := effect.grows other
  have kept := effect.tailKept other different
  have wellFormed := effect.wellFormed other
  have stays := effect.othersKept other different
  cases equal : activity other <;> rw [equal] at consistent
  case pushBackLoadTail =>
    simp only [Activity.Consistent] at consistent ⊢
    have := own.steal_le
    omega
  case pushBackLoadHead | finishWrite | finishStore =>
    exact LocalRunQueueInner.Room.grows consistent own kept
  case pushLoadTail | popLoadTail =>
    rcases consistent with ⟨steal, real, snapshot, near⟩
    exact ⟨steal, real, snapshot.grows own, by rw [kept]; exact near⟩
  case popClaim =>
    rcases consistent with ⟨steal, real, snapshot, near, below⟩
    exact ⟨steal, real, snapshot.grows own, by rw [kept]; exact near, by rw [kept]; exact below⟩
  case overflowClaim =>
    rcases consistent with ⟨steal, head_eq, tail_eq, full, steal_le⟩
    exact ⟨steal, head_eq, by rw [kept]; exact tail_eq, by rw [kept]; exact full,
      steal_le.trans own.steal_le⟩
  case overflowReexpose =>
    rcases consistent with ⟨steal, head_eq, tail_eq, full, empty⟩
    have steal_le := own.steal_le
    have atMost := wellFormed.steal_le.trans wellFormed.real_le
    exact ⟨steal, head_eq, by rw [kept]; exact tail_eq, by rw [kept]; exact full, by omega⟩
  case overflowMove =>
    rcases consistent with ⟨steal, head_eq, tail_eq, past, filled⟩
    exact ⟨steal, head_eq, by rw [kept]; exact tail_eq, past.trans own.steal_le, filled⟩
  case popMove =>
    rcases consistent with ⟨position, real_eq, below, near, apart⟩
    refine ⟨position, real_eq, below.trans_le own.real_le, by rw [kept]; exact near, ?_⟩
    rcases apart with past | ⟨thief, n, stealing, beyond⟩
    · exact .inl (past.trans_le own.steal_le)
    · by_cases moved : thief = worker
      · subst moved
        rcases effect.ownKept other n stealing with ⟨still, same⟩ | settled
        · exact .inr ⟨thief, n, by simpa using still, by rw [same]; exact beyond⟩
        · exact .inl (by have := own.real_le; omega)
      · have same := effect.othersKept thief moved other n stealing
        exact .inr ⟨thief, n, by simpa [moved] using stealing, by rw [same]; exact beyond⟩
  case stealLoadDstHead | stealLoadHead =>
    exact ⟨consistent.1, consistent.2.grows own kept⟩
  case stealLoadTail victim _ _ _ =>
    rcases consistent with ⟨apart, room, real, snapshot⟩
    exact ⟨apart, room.grows own kept, real, snapshot.grows (effect.grows victim)⟩
  case stealClaim victim _ _ _ _ =>
    rcases consistent with ⟨apart, room, snapshot, some, tail, seen_le, tail_le, count⟩
    exact ⟨apart, room.grows own kept, snapshot.grows (effect.grows victim), some, tail,
      seen_le, tail_le.trans (effect.grows victim).tail_le, count⟩
  case stealMove victim _ _ _ _ _ =>
    rcases consistent with ⟨apart, room, below, half, first_eq, claimed, snapshot⟩
    have same := stays victim _ (by rw [equal]; rfl)
    refine ⟨apart, room.grows own kept, below, half, by rw [same]; exact first_eq, ?_, ?_⟩
    · rw [same]
      exact claimed.trans (effect.grows victim).real_le
    · rw [same]
      exact snapshot.grows (effect.grows victim)
  case stealRelease victim _ _ _ =>
    rcases consistent with ⟨apart, room, some, half, claimed, real, snapshot⟩
    have same := stays victim _ (by rw [equal]; rfl)
    refine ⟨apart, room.grows own kept, some, half, ?_, real, ?_⟩
    · rw [same]
      exact claimed.trans (effect.grows victim).real_le
    · rw [same]
      exact snapshot.grows (effect.grows victim)
  case stealTake | stealPublish =>
    exact ⟨consistent.1.grows own kept, consistent.2⟩
  all_goals exact consistent

/-- A move keeps the order when the worker that makes it knows what its next place
in the code implies and starts a steal only where none is under way. -/
theorem move (effect : Effect worker ring after activity next)
    (consistent : next.Consistent after (update activity worker next) worker)
    (enters : ∀ victim n, next.stealing = some (victim, n) →
      (activity worker).stealing = some (victim, n) ∨
        (ring victim).stealPos = (ring victim).realPos)
    (unsettles : ∀ victim, (ring victim).stealPos = (ring victim).realPos →
      (after victim).stealPos < (after victim).realPos → ∃ n, next.stealing = some (victim, n)) :
    Ordered after (update activity worker next) where
  wellFormed := effect.wellFormed
  consistent := by
    intro other
    by_cases same : other = worker
    · subst same
      simpa using consistent
    · simpa [same] using ordered.others_consistent effect same
  oneThief := by
    have newcomer : ∀ other victim otherCount count, other ≠ worker →
        (activity other).stealing = some (victim, otherCount) →
        next.stealing = some (victim, count) → False := by
      intro other victim otherCount count different stealing entered
      rcases enters victim count entered with already | settled
      · exact different (ordered.oneThief _ _ _ _ _ stealing already)
      · exact ordered.not_stealing settled other otherCount stealing
    intro left right victim leftCount rightCount leftStealing rightStealing
    by_cases leftMoved : left = worker <;> by_cases rightMoved : right = worker
    · rw [leftMoved, rightMoved]
    · subst leftMoved
      simp only [update_self, ne_eq, rightMoved, not_false_eq_true,
        update_of_ne] at leftStealing rightStealing
      exact (newcomer _ _ _ _ rightMoved rightStealing leftStealing).elim
    · subst rightMoved
      simp only [update_self, ne_eq, leftMoved, not_false_eq_true,
        update_of_ne] at leftStealing rightStealing
      exact (newcomer _ _ _ _ leftMoved leftStealing rightStealing).elim
    · simp only [ne_eq, leftMoved, rightMoved, not_false_eq_true,
        update_of_ne] at leftStealing rightStealing
      exact ordered.oneThief _ _ _ _ _ leftStealing rightStealing
  someThief := by
    intro victim lags
    by_cases settled : (ring victim).stealPos = (ring victim).realPos
    · rcases unsettles victim settled lags with ⟨n, entered⟩
      exact ⟨worker, n, by simpa using entered⟩
    · have lagged := (ordered.wellFormed victim).steal_le
      rcases ordered.someThief victim (by omega) with ⟨thief, n, stealing⟩
      by_cases moved : thief = worker
      · subst moved
        rcases effect.ownKept victim n stealing with ⟨still, _⟩ | nowSettled
        · exact ⟨thief, n, by simpa using still⟩
        · omega
      · exact ⟨thief, n, by simpa [moved] using stealing⟩

theorem goto (located : activity worker = now) (same : next.stealing = now.stealing)
    (consistent : next.Consistent ring (update activity worker next) worker) :
    Ordered ring (update activity worker next) := by
  subst located
  refine ordered.move ⟨ordered.wellFormed, fun owner => .refl _, fun _ _ => rfl,
    fun _ _ _ _ _ => rfl, ?_⟩ consistent ?_ ?_
  · intro victim n stealing
    exact .inl ⟨same.trans stealing, rfl⟩
  · intro victim n stealing
    exact .inl (same.symm.trans stealing)
  · intro victim settled lags
    omega

/-- A move that changes only the ring of the worker that makes it. The `steal` half
moves only while no steal is under way. -/
theorem setOwn (wellFormed : changed.WellFormed) (grows : (ring worker).Grows changed)
    (kept : changed.stealPos = (ring worker).stealPos ∨
      (ring worker).stealPos = (ring worker).realPos) (lags : changed.stealPos < changed.realPos →
      (ring worker).stealPos < (ring worker).realPos)
    (located : activity worker = now) (same : next.stealing = now.stealing)
    (consistent : next.Consistent (update ring worker changed)
      (update activity worker next) worker) :
    Ordered (update ring worker changed) (update activity worker next) := by
  subst located
  have stealKept : ∀ thief victim n, (activity thief).stealing = some (victim, n) →
      (update ring worker changed victim).stealPos = (ring victim).stealPos := by
    intro thief victim n stealing
    by_cases own : victim = worker
    · subst own
      rcases kept with equal | settled
      · simpa using equal
      · exact (ordered.not_stealing settled thief n stealing).elim
    · rw [update_of_ne own]
  refine ordered.move ⟨?_, ?_, ?_, ?_, ?_⟩ consistent ?_ ?_
  · intro owner
    by_cases own : owner = worker
    · subst own
      simpa using wellFormed
    · simpa [own] using ordered.wellFormed owner
  · intro owner
    by_cases own : owner = worker
    · subst own
      simpa using grows
    · simpa [own] using LocalRunQueueInner.Grows.refl (ring owner)
  · intro owner own
    rw [update_of_ne own]
  · intro thief _ victim n stealing
    exact stealKept thief victim n stealing
  · intro victim n stealing
    exact .inl ⟨same.trans stealing, stealKept worker victim n stealing⟩
  · intro victim n stealing
    exact .inl (same.symm.trans stealing)
  · intro victim settled lagging
    by_cases own : victim = worker
    · subst own
      have := lags (by simpa using lagging)
      omega
    · rw [update_of_ne own] at lagging
      omega

/-- A thief's move that changes only the head of its victim's ring. -/
theorem setVictim (wellFormed : changed.WellFormed) (grows : (ring victim).Grows changed)
    (tailKept : changed.tailPos = (ring victim).tailPos)
    (kept : ∀ thief, thief ≠ worker → ∀ n, (activity thief).stealing = some (victim, n) →
      changed.stealPos = (ring victim).stealPos)
    (leaves : ∀ other n, (activity worker).stealing = some (other, n) →
      other = victim ∧ changed.stealPos = changed.realPos)
    (enters : ∀ other n, next.stealing = some (other, n) →
      other = victim ∧ (ring victim).stealPos = (ring victim).realPos)
    (unsettles : changed.stealPos < changed.realPos → ∃ n, next.stealing = some (victim, n))
    (consistent : next.Consistent (update ring victim changed)
      (update activity worker next) worker) :
    Ordered (update ring victim changed) (update activity worker next) := by
  refine ordered.move ⟨?_, ?_, ?_, ?_, ?_⟩ consistent ?_ ?_
  · intro owner
    by_cases own : owner = victim
    · subst own
      simpa using wellFormed
    · simpa [own] using ordered.wellFormed owner
  · intro owner
    by_cases own : owner = victim
    · subst own
      simpa using grows
    · simpa [own] using LocalRunQueueInner.Grows.refl (ring owner)
  · intro owner _
    by_cases own : owner = victim
    · subst own
      simpa using tailKept
    · rw [update_of_ne own]
  · intro thief different other n stealing
    by_cases own : other = victim
    · subst own
      simpa using kept thief different n stealing
    · rw [update_of_ne own]
  · intro other n stealing
    rcases leaves other n stealing with ⟨rfl, settled⟩
    exact .inr (by simpa using settled)
  · intro other n stealing
    rcases enters other n stealing with ⟨rfl, settled⟩
    exact .inr settled
  · intro other settled lagging
    by_cases own : other = victim
    · subst own
      exact unsettles (by simpa using lagging)
    · rw [update_of_ne own] at lagging
      omega

end Ordered

end CoroRuntime.RunQueue
