import CoroRuntime.RunQueue.Conservation

/-! # Exactly-once transfer -/

namespace CoroRuntime.RunQueue

open Foundation
open scoped BigOperators

variable {Worker T : Type}

/-- The slots that a worker takes to be its own, as runs of slots of a ring: it may
still read or write them without looking at the indices again. -/
def Activity.claims (worker : Worker) : Activity Worker T → List (Worker × Index × Nat)
  | .finishWrite _ tail | .finishStore tail => [(worker, tail, 1)]
  | .overflowReexpose _ head _ => [(worker, head, localQueueCapacity)]
  | .overflowMove _ head batch =>
    [(worker, head + BitVec.ofNat 32 (numTaken + batch.length), numTaken - batch.length)]
  | .popMove real => [(worker, real, 1)]
  | .stealMove victim dstTail _ first n i =>
    [(victim, first + BitVec.ofNat 32 i, n - i), (worker, dstTail, n)]
  | .stealRelease _ dstTail _ n | .stealTake dstTail n | .stealPublish dstTail n _ =>
    [(worker, dstTail, n)]
  | _ => []

namespace QueueState

def Owns (state : QueueState Worker T) (worker owner : Worker)
    (place : Fin localQueueCapacity) : Prop :=
  ∃ first length, (owner, first, length) ∈ (state.activity worker).claims worker ∧
    ∃ offset < length, place = bufferIndex (first + BitVec.ofNat 32 offset)

/-- The slot holds a task that nobody has taken yet. -/
def Live (state : QueueState Worker T) (owner : Worker)
    (place : Fin localQueueCapacity) : Prop :=
  ∃ position, (state.ring owner).realPos ≤ position ∧ position < (state.ring owner).tailPos ∧
    place = slot localQueueCapacity position

inductive Region (state : QueueState Worker T) (worker owner : Worker) : Nat → Prop
  | free {position} : owner = worker → (state.ring worker).tailPos ≤ position →
      position < (state.ring worker).stealPos + localQueueCapacity →
      Region state worker owner position
  | popped {position} : owner = worker → position < (state.ring worker).realPos →
      (state.ring worker).tailPos ≤ position + localQueueCapacity →
      (position < (state.ring worker).stealPos ∨
        ∃ thief n, (state.activity thief).stealing = some (worker, n) ∧
          (state.ring worker).stealPos + n ≤ position) →
      Region state worker owner position
  | stolen {position n} : (state.activity worker).stealing = some (owner, n) →
      (state.ring owner).stealPos ≤ position → position < (state.ring owner).stealPos + n →
      Region state worker owner position

variable {state : QueueState Worker T}

variable (inOrder : state.InOrder)

include inOrder

theorem InOrder.region (owns : state.Owns worker owner place) :
    ∃ position, place = slot localQueueCapacity position ∧
      state.Region worker owner position := by
  rcases owns with ⟨first, length, member, offset, inside, rfl⟩
  have consistent := inOrder.consistent worker
  have half := numTaken_eq
  have capacity := capacity_eq
  have dst : ∀ {tail : Index} {n : Nat}, (state.ring worker).Room tail numTaken → offset < n →
      n ≤ numTaken → ∃ position, bufferIndex (tail + BitVec.ofNat 32 offset) =
        slot localQueueCapacity position ∧ state.Region worker worker position := by
    intro tail n room below most
    have fits := room.fits
    rw [room.tail_eq, index_add, bufferIndex_index]
    exact ⟨_, rfl, .free rfl (by omega) (by omega)⟩
  cases located : state.activity worker <;> rw [located] at consistent member <;>
    simp only [Activity.claims, List.not_mem_nil, List.mem_cons, or_false,
      Prod.mk.injEq] at member
  case finishWrite | finishStore =>
    rcases member with ⟨rfl, rfl, rfl⟩
    have fits := consistent.fits
    rw [consistent.tail_eq, index_add, bufferIndex_index]
    exact ⟨_, rfl, .free rfl (by omega) (by omega)⟩
  case overflowReexpose task head tail =>
    rcases member with ⟨rfl, rfl, rfl⟩
    rcases consistent with ⟨steal, rfl, _, full, empty⟩
    rw [index_add, bufferIndex_index, ← slot_add_capacity]
    exact ⟨_, rfl, .free rfl (by omega) (by omega)⟩
  case overflowMove task head batch =>
    rcases member with ⟨rfl, rfl, rfl⟩
    rcases consistent with ⟨steal, rfl, full, past, _⟩
    rw [index_add, index_add, bufferIndex_index, ← slot_add_capacity]
    exact ⟨_, rfl, .free rfl (by omega) (by omega)⟩
  case popMove real =>
    rcases member with ⟨rfl, rfl, rfl⟩
    rcases consistent with ⟨position, rfl, below, near, apart⟩
    have zero : offset = 0 := by omega
    rw [zero, index_add, bufferIndex_index]
    exact ⟨position, rfl, .popped rfl below near apart⟩
  case stealMove victim dstTail prev start n i =>
    rcases consistent with ⟨_, room, below, most, rfl, _, _⟩
    rcases member with ⟨rfl, rfl, rfl⟩ | ⟨rfl, rfl, rfl⟩
    · rw [index_add, index_add, bufferIndex_index]
      exact ⟨_, rfl, .stolen (by rw [located]; rfl) (by omega) (by omega)⟩
    · exact dst room inside most
  case stealRelease victim dstTail prev n =>
    rcases member with ⟨rfl, rfl, rfl⟩
    exact dst consistent.2.1 inside consistent.2.2.2.1
  case stealTake | stealPublish =>
    rcases member with ⟨rfl, rfl, rfl⟩
    exact dst consistent.1 inside consistent.2.2

theorem InOrder.owner_thief_apart (region : state.Region worker worker mine)
    (stealing : (state.activity thief).stealing = some (worker, n)) (different : worker ≠ thief)
    (lower : (state.ring worker).stealPos ≤ stolen)
    (upto : stolen < (state.ring worker).stealPos + n) :
    slot localQueueCapacity mine ≠ slot localQueueCapacity stolen := by
  have within := inOrder.stealing_within stealing
  have wellFormed := inOrder.wellFormed worker
  have real_le := wellFormed.real_le
  have tail_le := wellFormed.tail_le
  cases region with
  | free _ atLeast below => exact (slot_ne (by omega) (by omega)).symm
  | popped _ below near apart =>
    rcases apart with past | ⟨other, count, otherStealing, beyond⟩
    · exact slot_ne (by omega) (by omega)
    · have same := inOrder.oneThief _ _ _ _ _ otherStealing stealing
      rw [same, stealing] at otherStealing
      cases otherStealing
      exact (slot_ne (by omega) (by omega)).symm
  | stolen own _ _ =>
    exact (different (inOrder.oneThief _ _ _ _ _ own stealing)).elim

theorem InOrder.owns_unique (leftOwns : state.Owns left owner place)
    (rightOwns : state.Owns right owner place) : left = right := by
  rcases inOrder.region leftOwns with ⟨leftPos, leftPlace, leftRegion⟩
  rcases inOrder.region rightOwns with ⟨rightPos, rightPlace, rightRegion⟩
  have samePlace := leftPlace.symm.trans rightPlace
  by_contra different
  cases leftRegion with
  | stolen leftStealing leftFrom leftUpto =>
    cases rightRegion with
    | stolen rightStealing _ _ =>
      exact different (inOrder.oneThief _ _ _ _ _ leftStealing rightStealing)
    | free same atLeast below =>
      subst same
      exact inOrder.owner_thief_apart (.free rfl atLeast below) leftStealing
        (Ne.symm different) leftFrom leftUpto samePlace.symm
    | popped same below near apart =>
      subst same
      exact inOrder.owner_thief_apart (.popped rfl below near apart) leftStealing
        (Ne.symm different) leftFrom leftUpto samePlace.symm
  | free same atLeast below =>
    subst same
    cases rightRegion with
    | stolen rightStealing rightFrom rightUpto =>
      exact inOrder.owner_thief_apart (.free rfl atLeast below) rightStealing different
        rightFrom rightUpto samePlace
    | free same => exact different same
    | popped same => exact different same
  | popped same below near apart =>
    subst same
    cases rightRegion with
    | stolen rightStealing rightFrom rightUpto =>
      exact inOrder.owner_thief_apart (.popped rfl below near apart) rightStealing different
        rightFrom rightUpto samePlace
    | free same => exact different same
    | popped same => exact different same

/-- Nobody owns a slot whose task can still be taken. -/
theorem InOrder.owns_not_live (owns : state.Owns worker owner place) : ¬state.Live owner place := by
  rintro ⟨live, atLeast, below, livePlace⟩
  rcases inOrder.region owns with ⟨position, samePlace, region⟩
  have equal := samePlace.symm.trans livePlace
  have wellFormed := inOrder.wellFormed owner
  have steal_le := wellFormed.steal_le
  have tail_le := wellFormed.tail_le
  cases region with
  | free same lower upto =>
    subst same
    exact slot_ne (by omega) (by omega) equal.symm
  | popped same taken near _ =>
    subst same
    exact slot_ne (by omega) (by omega) equal
  | stolen stealing lower upto =>
    have within := inOrder.stealing_within stealing
    exact slot_ne (by omega) (by omega) equal

end QueueState

def Activity.pops : Activity Worker T → Bool
  | .popLoadHead | .popLoadTail _ | .popClaim _ | .popMove _ => true
  | _ => false

structure ExactlyOnce [DecidableEq Worker] [Fintype Worker] (state : QueueState Worker T) :
    Prop where
  conserved : ∑ place, state.holdings place = (state.pushed : Multiset T)
  onePlace : state.pushed.Nodup → ∀ task left right, task ∈ state.holdings left →
    task ∈ state.holdings right → left = right
  /-- Each move takes effect on the bags at once. -/
  atomic : ∀ move next, withinContract state move → state.step move = some next →
    ∃ added, Transaction state.holdings next.holdings added ∧
      (next.pushed : Multiset T) = state.pushed + added
  /-- A `pop` that ends without a task has found a ring with nothing to take. -/
  emptyPop : ∀ worker weak next, (state.activity worker).pops →
    state.step (.advance worker weak) = some next → next.activity worker = .idle →
    next.returned = state.returned → state.holdings (.ring worker) = 0
  exclusive : ∀ left right owner place, state.Owns left owner place →
    state.Owns right owner place → left = right
  untaken : ∀ worker owner place, state.Owns worker owner place → ¬state.Live owner place
  bounded : ∀ owner, (queueLen (unpack (state.ring owner).head).1
    (state.ring owner).tail).toNat ≤ localQueueCapacity
  asserts : ∀ worker, state.activity worker ≠ .assertFailed

namespace QueueState

variable {state : QueueState Worker T}

theorem InOrder.nothing_to_pop (inOrder : state.InOrder)
    (located : state.activity worker = .popLoadTail headVal)
    (empty : (unpack headVal).2 = (state.ring worker).tail) :
    state.holdings (.ring worker) = 0 := by
  rcases inOrder.suits located with ⟨steal, real, snapshot, near⟩
  have wellFormed := inOrder.wellFormed worker
  have real_le := wellFormed.real_le
  have read_le := snapshot.real_le
  have ordered := snapshot.ordered
  have capacity := capacity_eq
  rw [snapshot.word_eq, wellFormed.tail_eq, unpack_headAt] at empty
  have same : real = (state.ring worker).tailPos :=
    eq_of_index_eq (by omega) (by omega) empty
  have nothing : (state.ring worker).tailPos - (state.ring worker).realPos = 0 := by omega
  simp only [holdings, LocalRunQueueInner.live, nothing, window_zero]

theorem InOrder.emptyPop [DecidableEq Worker] (inOrder : state.InOrder)
    (pops : (state.activity worker).pops) (stepped : state.advance worker weak = some next)
    (idle : next.activity worker = .idle) (nothing : next.returned = state.returned) :
    state.holdings (.ring worker) = 0 := by
  cases located : state.activity worker <;>
    simp only [located, Activity.pops, Bool.false_eq_true] at pops <;>
    simp only [QueueState.advance, located, Option.some.injEq] at stepped <;>
    subst stepped
  case popLoadHead => simp [QueueState.goto] at idle
  case popLoadTail headVal =>
    apply inOrder.nothing_to_pop located
    by_contra more
    simp [QueueState.goto, more] at idle
  case popClaim headVal =>
    unfold QueueState.popClaim at idle
    dsimp only at idle
    split at idle <;> simp [QueueState.goto] at idle
  case popMove real => simp [QueueState.give, QueueState.goto] at nothing

theorem InOrder.exactlyOnce [DecidableEq Worker] [Fintype Worker] (inOrder : state.InOrder)
    (conserved : ∑ place, state.holdings place = (state.pushed : Multiset T)) :
    ExactlyOnce state where
  conserved := conserved
  onePlace := by
    intro distinct task left right
    apply place_unique
    rw [conserved]
    exact distinct
  atomic := fun _ _ admitted stepped => step_transaction inOrder admitted stepped
  emptyPop := fun _ _ _ pops stepped => inOrder.emptyPop pops stepped
  exclusive := fun _ _ _ _ leftOwns rightOwns => inOrder.owns_unique leftOwns rightOwns
  untaken := fun _ _ _ owns => inOrder.owns_not_live owns
  bounded := by
    intro owner
    have wellFormed := inOrder.wellFormed owner
    have tail_le := wellFormed.tail_le
    rw [wellFormed.toNat_len]
    omega
  asserts := by
    intro worker failed
    exact inOrder.suits failed

end QueueState

/-- The rings are in order and the places together hold what was pushed. -/
structure Accounted [Fintype Worker] (state : QueueState Worker T) : Prop where
  inOrder : state.InOrder
  conserved : ∑ place, state.holdings place = (state.pushed : Multiset T)

theorem reaches_accounted [DecidableEq Worker] [Fintype Worker] [Inhabited T]
    (reached : (queueMachine Worker T).Reaches withinContract state) : Accounted state := by
  refine reached.invariant Accounted ?_ ?_
  · intro state move next accounted admitted stepped
    rcases QueueState.step_transaction accounted.inOrder admitted stepped with
      ⟨added, transaction, pushed⟩
    refine ⟨accounted.inOrder.step admitted stepped, ?_⟩
    rw [transaction.sum_eq, accounted.conserved, pushed]
  · refine ⟨QueueState.inOrder_empty, Finset.sum_eq_zero ?_⟩
    intro place _
    cases place <;> rfl

theorem run_queue_exactly_once [DecidableEq Worker] [Fintype Worker] [Inhabited T]
    (state : QueueState Worker T)
    (reached : (queueMachine Worker T).Reaches withinContract state) : ExactlyOnce state :=
  (reaches_accounted reached).inOrder.exactlyOnce (reaches_accounted reached).conserved

/-- One worker pushes two tasks; the other one steals the first of them while the
owner pops the second. -/
theorem run_queue_exactly_once_stolen :
    ∃ state, (queueMachine (Fin 2) Nat).Reaches withinContract state ∧
      state.returned = [8, 7] ∧ ExactlyOnce state :=
  exists_of_exec
    [.start 0 (.pushOrOverflow 7), .advance 0 false, .advance 0 false, .advance 0 false,
      .advance 0 false, .start 0 (.pushBack 8), .advance 0 false, .advance 0 false,
      .advance 0 false, .advance 0 false, .start 1 (.stealInto 0), .advance 1 false,
      .advance 1 false, .advance 1 false, .advance 1 false, .advance 1 false,
      .start 0 .pop, .advance 0 false, .advance 0 false, .advance 0 false,
      .advance 0 false, .advance 1 false, .advance 1 false, .advance 1 false,
      .advance 1 false, .advance 1 false]
    (by decide +kernel) fun reached => ⟨by decide +kernel, run_queue_exactly_once _ reached⟩

end CoroRuntime.RunQueue
