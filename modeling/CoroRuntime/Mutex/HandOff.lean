import CoroRuntime.Mutex.Guards

/-! # The hand-off of a released mutex

Acquisitions are counted as released once, so that what is left is how `release()` and
the polls that follow it pass the mutex on.
-/

namespace CoroRuntime.Mutex

open Foundation

variable {Guard Future Waker : Type} {state next : MutexState Guard Future Waker}
  {owner : Option (Guard × Nat)}

/-- The guard `owner` holds the mutex for its acquisition, or nobody does. -/
structure Owned (state : MutexState Guard Future Waker) (owner : Option (Guard × Nat)) :
    Prop where
  pointer : ∀ id acquisition, state.guard id = some ⟨some acquisition⟩ ↔
    owner = some (id, acquisition)
  holder : ∀ id acquisition, state.holder acquisition = some id ↔
    owner = some (id, acquisition)
  outstanding : ∀ id acquisition, owner = some (id, acquisition) →
    acquisition < state.acquisitions ∧ state.released acquisition = 0
  settled : ∀ acquisition < state.acquisitions, (∀ id, owner ≠ some (id, acquisition)) →
    state.released acquisition = 1
  fresh : ∀ acquisition, state.acquisitions ≤ acquisition → state.released acquisition = 0
  outside : state.reentered = false
  locked : state.locked = true ↔ owner.isSome ∨ 0 < state.handed
  handed : 0 < state.handed → owner = none
  queued : state.waiters ≠ [] → state.locked = true
  arrived : state.handed = 0 → state.arrivals ≠ [] → state.waiters ≠ []

namespace Owned

theorem waits (owned : Owned state owner) (queued : waiters ≠ [] → state.locked = true)
    (arrived : state.handed = 0 → arrivals ≠ [] → waiters ≠ []) :
    Owned { state with
      waiters := waiters, waking := waking, future := future, arrivals := arrivals } owner :=
  { owned with queued, arrived }

theorem free (owned : Owned state owner) (unlocked : state.locked = false) :
    owner = none ∧ state.handed = 0 ∧ state.waiters = [] ∧ state.arrivals = [] := by
  have nothing : ¬(owner.isSome ∨ 0 < state.handed) := by
    rw [← owned.locked, unlocked]
    exact Bool.false_ne_true
  have empty : state.waiters = [] := by
    by_contra waiting
    rw [owned.queued waiting] at unlocked
    exact Bool.noConfusion unlocked
  have notHanded : state.handed = 0 := by omega
  refine ⟨by simpa using fun owns => nothing (.inl owns), notHanded, empty, ?_⟩
  by_contra arrived
  exact owned.arrived notHanded arrived empty

variable [DecidableEq Guard] {internal : InternalMutex}

theorem acquire [DecidableEq Future] (owned : Owned state owner)
    (unlocked : state.locked = false) (id : Future) (result : Guard) :
    Owned (state.acquire internal .counted id result)
      (some (result, state.acquisitions)) := by
  rcases owned.free unlocked with ⟨rfl, notHanded, _, noArrivals⟩
  simp only [MutexState.acquire, MutexGuard.movedFrom, MutexState.destroyGuard]
  refine ⟨?_, ?_, ?_, ?_, ?_, owned.outside, by simp, ?_, fun _ => rfl, ?_⟩
  · intro other acquisition
    have elsewhere := owned.pointer other acquisition
    by_cases same : other = result
    · subst same
      simp [eq_comm]
    · simpa [same, Ne.symm same] using elsewhere
  · intro other acquisition
    have elsewhere := owned.holder other acquisition
    by_cases same : acquisition = state.acquisitions
    · subst same
      simp
    · simpa [same, Ne.symm same] using elsewhere
  · rintro _ _ ⟨⟩
    exact ⟨Nat.lt_succ_self _, owned.fresh _ (Nat.le_refl _)⟩
  · intro acquisition bounded elsewhere
    have different : acquisition ≠ state.acquisitions := by
      intro same
      subst same
      exact elsewhere result rfl
    exact owned.settled acquisition (Nat.lt_of_le_of_ne (Nat.lt_succ_iff.mp bounded) different)
      (by simp)
  · intro acquisition bounded
    exact owned.fresh acquisition (Nat.le_of_succ_le bounded)
  · intro handed
    exact absurd notHanded (Nat.ne_of_gt handed)
  · intro _ arrived
    rw [noArrivals] at arrived
    exact absurd rfl arrived

theorem giveUp_empty (owned : Owned state owner) {id : Guard} (found : state.guard id = some ⟨none⟩)
    (empty : ∀ acquisition, left ≠ some ⟨some acquisition⟩) :
    Owned (state.giveUp id left) owner := by
  have notOwner : ∀ acquisition, owner ≠ some (id, acquisition) := by
    intro acquisition owns
    rw [← owned.pointer, found] at owns
    simp at owns
  refine { owned with pointer := ?_, holder := ?_ }
  · intro other acquisition
    by_cases same : other = id
    · subst same
      simp [MutexState.giveUp, empty, notOwner]
    · simpa [MutexState.giveUp, same] using owned.pointer other acquisition
  · intro other acquisition
    have notHolder : state.holder acquisition ≠ some id := by
      rw [Ne, owned.holder]
      exact notOwner acquisition
    simpa [MutexState.giveUp, notHolder] using owned.holder other acquisition

theorem giveUp_release {id : Guard} (owned : Owned state (some (id, acquisition)))
    (empty : ∀ acquisition, left ≠ some ⟨some acquisition⟩) :
    Owned ((state.giveUp id left).destroyGuard internal false ⟨some acquisition⟩) none := by
  have notHanded : state.handed = 0 := by
    by_contra handed
    cases owned.handed (Nat.pos_of_ne_zero handed)
  have locked : state.locked = true := owned.locked.mpr (.inl rfl)
  rcases owned.outstanding id acquisition rfl with ⟨acquired, unreleased⟩
  have pointer : ∀ other number, (state.giveUp id left).guard other ≠ some ⟨some number⟩ := by
    intro other number
    have elsewhere := owned.pointer other number
    by_cases same : other = id
    · subst same
      simpa [MutexState.giveUp] using empty number
    · simpa [MutexState.giveUp, same, Ne.symm same] using elsewhere
  have holder : ∀ other number, (state.giveUp id left).holder number ≠ some other := by
    intro other number
    have elsewhere := owned.holder other number
    by_cases same : other = id
    · subst same
      simp [MutexState.giveUp]
    · simp_all [MutexState.giveUp, Ne.symm same]
  have settled : ∀ number < state.acquisitions,
      Function.update state.released acquisition (state.released acquisition + 1) number = 1 := by
    intro number bounded
    by_cases same : number = acquisition
    · subst same
      simp [unreleased]
    · rw [Function.update_of_ne same]
      exact owned.settled number bounded (by simp [Ne.symm same])
  have fresh : ∀ number, state.acquisitions ≤ number →
      Function.update state.released acquisition (state.released acquisition + 1) number = 0 := by
    intro number bounded
    rw [Function.update_of_ne (Nat.ne_of_gt (Nat.lt_of_lt_of_le acquired bounded))]
    exact owned.fresh number bounded
  simp only [MutexState.destroyGuard, MutexState.release]
  split
  · rename_i noWaiters
    exact {
      pointer := fun other number => iff_of_false (pointer other number) (by simp)
      holder := fun other number => iff_of_false (holder other number) (by simp)
      outstanding := by simp
      settled := fun number bounded _ => settled number bounded
      fresh := fresh
      outside := by simpa [MutexState.giveUp] using owned.outside
      locked := by simpa [MutexState.giveUp] using notHanded
      handed := fun _ => rfl
      queued := fun waiting => absurd noWaiters waiting
      arrived := owned.arrived }
  · exact {
      pointer := fun other number => iff_of_false (pointer other number) (by simp)
      holder := fun other number => iff_of_false (holder other number) (by simp)
      outstanding := by simp
      settled := fun number bounded _ => settled number bounded
      fresh := fresh
      outside := by simpa [MutexState.giveUp] using owned.outside
      locked := iff_of_true locked (.inr (Nat.succ_pos _))
      handed := fun _ => rfl
      queued := fun _ => locked
      arrived := by simp }

theorem transfer_empty (owned : Owned state owner) (found : state.guard source = some ⟨none⟩)
    (empty : ∀ acquisition, state.guard target ≠ some ⟨some acquisition⟩) :
    Owned (state.transfer .counted source target ⟨none⟩) owner := by
  have notOwner : ∀ acquisition, owner ≠ some (source, acquisition) := by
    intro acquisition owns
    rw [← owned.pointer, found] at owns
    simp at owns
  refine { owned with pointer := ?_, holder := ?_ }
  · intro other acquisition
    have before := owned.pointer other acquisition
    by_cases atSource : other = source
    · subst atSource
      simp [MutexState.transfer, MutexGuard.movedFrom, notOwner]
    · by_cases atTarget : other = target
      · subst atTarget
        simpa [MutexState.transfer, atSource, empty] using before
      · simpa [MutexState.transfer, atSource, atTarget] using before
  · intro other acquisition
    have notHolder : state.holder acquisition ≠ some source := by
      rw [Ne, owned.holder]
      exact notOwner acquisition
    simpa [MutexState.transfer, notHolder] using owned.holder other acquisition

theorem transfer_owner (owned : Owned state (some (source, acquisition)))
    (different : source ≠ target) :
    Owned (state.transfer .counted source target ⟨some acquisition⟩)
      (some (target, acquisition)) := by
  have notHanded : ¬0 < state.handed := fun handed => nomatch owned.handed handed
  refine ⟨?_, ?_, ?_, ?_, owned.fresh, owned.outside, ?_, fun handed => absurd handed notHanded,
    owned.queued, owned.arrived⟩
  · intro other number
    have before := owned.pointer other number
    by_cases atSource : other = source
    · subst atSource
      simp [MutexState.transfer, MutexGuard.movedFrom, Ne.symm different]
    · by_cases atTarget : other = target
      · subst atTarget
        simp [MutexState.transfer, atSource]
      · simpa [MutexState.transfer, atSource, atTarget, Ne.symm atSource, Ne.symm atTarget]
          using before
  · intro other number
    by_cases same : number = acquisition
    · subst same
      simp [MutexState.transfer, (owned.holder source number).mpr rfl]
    · have before := owned.holder other number
      have notHolder : state.holder number ≠ some source := by
        rw [Ne, owned.holder]
        simp [Ne.symm same]
      simpa [MutexState.transfer, notHolder, Ne.symm same] using before
  · rintro _ _ ⟨⟩
    exact owned.outstanding source acquisition rfl
  · intro number bounded elsewhere
    exact owned.settled number bounded (by simpa using elsewhere target)
  · simpa [MutexState.transfer] using owned.locked

theorem giveUp (owned : Owned state owner) {id : Guard} {guard : MutexGuard}
    (found : state.guard id = some guard) (empty : ∀ acquisition, left ≠ some ⟨some acquisition⟩) :
    ∃ owner, Owned ((state.giveUp id left).destroyGuard internal false guard) owner := by
  rcases guard with ⟨_ | acquisition⟩
  · exact ⟨owner, owned.giveUp_empty found empty⟩
  · rw [owned.pointer] at found
    subst found
    exact ⟨none, owned.giveUp_release empty⟩

theorem transfer (owned : Owned state owner) {guard : MutexGuard} (different : source ≠ target)
    (found : state.guard source = some guard)
    (empty : ∀ acquisition, state.guard target ≠ some ⟨some acquisition⟩) :
    ∃ owner, Owned (state.transfer .counted source target guard) owner := by
  rcases guard with ⟨_ | acquisition⟩
  · exact ⟨owner, owned.transfer_empty found empty⟩
  · rw [owned.pointer] at found
    subst found
    exact ⟨_, owned.transfer_owner different⟩

end Owned

/-! ## Runs -/

section Runs

variable {internal : InternalMutex}

theorem destroyGuard_guard (insideSection : Bool) (guard : MutexGuard) :
    (state.destroyGuard internal insideSection guard).guard = state.guard := by
  simp only [MutexState.destroyGuard, MutexState.release]
  repeat' split
  all_goals rfl

variable [DecidableEq Guard] [DecidableEq Future] [DecidableEq Waker]

theorem Owned.step (owned : Owned state owner)
    (stepped : state.step internal .counted move = some next) : ∃ owner, Owned next owner := by
  cases move with simp only [MutexState.step] at stepped
  | lock id | wake =>
    split at stepped <;> cases stepped
    exact ⟨owner, owned.waits owned.queued owned.arrived⟩
  | poll id waker result =>
    split at stepped
    · split at stepped
      · cases stepped
      · split at stepped
        · rename_i locked
          cases stepped
          exact ⟨owner, owned.waits (fun _ => locked) (by simp)⟩
        · rename_i unlocked
          rcases of_guard stepped with ⟨-, rfl⟩
          exact ⟨_, owned.acquire (by simpa using unlocked) id result⟩
    · cases stepped
  | dropFuture id =>
    split at stepped <;> cases stepped
    refine ⟨owner, owned.waits owned.queued ?_⟩
    intro notHanded remain
    apply owned.arrived notHanded
    intro nobody
    rw [nobody] at remain
    exact remain rfl
  | moveConstruct source target =>
    split at stepped <;> cases stepped
    rename_i guard found absent
    refine owned.transfer ?_ found (by simp [absent])
    intro same
    subst same
    rw [absent] at found
    cases found
  | moveAssign source target =>
    split at stepped
    · rename_i guard before found overwritten
      split at stepped
      · cases stepped
        exact ⟨owner, owned⟩
      · rename_i different
        split at stepped <;> cases stepped
        have emptied : ∃ owner, Owned ((state.giveUp target (some ⟨none⟩)).destroyGuard
            internal false before) owner :=
          owned.giveUp overwritten (by simp)
        rcases emptied with ⟨_, emptied⟩
        refine emptied.transfer different ?_ ?_
        · simpa [destroyGuard_guard, MutexState.giveUp, different] using found
        · simp [destroyGuard_guard, MutexState.giveUp]
    · cases stepped
  | destroy id =>
    split at stepped
    · rename_i guard found
      split at stepped <;> cases stepped
      exact owned.giveUp found (by simp)
    · cases stepped

theorem owned_of_reaches
    (reached : (mutexMachine Guard Future Waker internal .counted).Reaches anyMove
      state) : ∃ owner, Owned state owner := by
  refine reached.invariant (fun state => ∃ owner, Owned state owner) ?_ ?_
  · rintro _ _ _ ⟨owner, owned⟩ _ stepped
    exact owned.step stepped
  · exact ⟨none, by constructor <;> simp [mutexMachine]⟩

/-- A locked mutex has a guard or a woken future that gets one when it is polled, and of
the waiting futures the first to wait is the first to get it. -/
structure HandedOff (internal : InternalMutex) (state : MutexState Guard Future Waker) :
    Prop where
  owned : state.locked = true →
    (∃ id acquisition, state.guard id = some ⟨some acquisition⟩) ∨
    ∃ id waker, state.future id = some (.pending waker true) ∧
      ∃ waker result next, state.step internal .counted (.poll id waker result) = some next ∧
        next.future id = some .ready
  inOrder : ∀ id waker result next, id ∈ state.arrivals →
    state.step internal .counted (.poll id waker result) = some next →
    next.future id = some .ready → state.arrivals.head? = some id

/-- A locked mutex answers every poll with Pending, that of the future it was meant for
included. -/
theorem poll_locked (locked : state.locked = true) {id : Future}
    (stepped : state.step internal moves (.poll id waker result) = some next) :
    next.future id ≠ some .ready := by
  simp only [MutexState.step] at stepped
  split at stepped
  · split at stepped <;> cases stepped
    simp [MutexState.enqueue]
  · cases stepped

/-- The hand-off works just as long as no release finds a waiter to hand the mutex to. -/
theorem mutex_handed_off_iff
    (reached : (mutexMachine Guard Future Waker internal .counted).Reaches anyMove
      state) : HandedOff internal state ↔ state.handed = 0 := by
  rcases owned_of_reaches reached with ⟨owner, owned⟩
  constructor
  · intro handedOff
    by_contra handed
    have nobody := owned.handed (Nat.pos_of_ne_zero handed)
    have locked := owned.locked.mpr (.inr (Nat.pos_of_ne_zero handed))
    rcases handedOff.owned locked with
      ⟨id, acquisition, holds⟩ | ⟨id, _, _, _, _, _, stepped, gets⟩
    · rw [owned.pointer, nobody] at holds
      exact nomatch holds
    · exact poll_locked locked stepped gets
  · intro notHanded
    constructor
    · intro locked
      rcases owned.locked.mp locked with owns | handed
      · rcases Option.isSome_iff_exists.mp owns with ⟨⟨id, acquisition⟩, owns⟩
        exact .inl ⟨id, acquisition, (owned.pointer id acquisition).mpr owns⟩
      · omega
    · -- whoever waits has its waker in the queue, and then the mutex is locked
      intro id waker result next waits stepped gets
      have locked := owned.queued (owned.arrived notHanded (List.ne_nil_of_mem waits))
      exact absurd gets (poll_locked locked stepped)

end Runs

/-- A guard is moved on while another future waits. -/
theorem mutex_handed_off_iff_moved :
    ∃ state : MutexState Bool Bool Unit,
      (mutexMachine Bool Bool Unit .standard .counted).Reaches anyMove state ∧
      state.locked = true ∧ state.arrivals = [true] ∧ HandedOff .standard state := by
  refine exists_of_exec
    [.lock false, .lock true, .poll false () false, .moveConstruct false true, .destroy false,
      .poll true () false]
    (by decide +kernel) fun reached => ⟨?_, ?_, (mutex_handed_off_iff reached).mpr ?_⟩
  all_goals decide +kernel

/-- A release wakes the waiting future and leaves the mutex locked. The future finds it
locked, and nobody holds it. -/
theorem release_to_waiter_loses_mutex :
    ¬∀ state : MutexState Unit Bool Unit,
      (mutexMachine Unit Bool Unit .standard .counted).Reaches anyMove state →
      HandedOff .standard state := by
  intro always
  have reached := (mutexMachine Unit Bool Unit .standard .counted).reaches_exec anyMove
    [.lock false, .lock true, .poll false () (), .poll true () (), .destroy (), .wake]
    (by decide +kernel)
  rcases (always _ reached).owned rfl with ⟨_, _, holds⟩ | ⟨_, _, _, _, _, _, stepped, gets⟩
  · cases holds
  · exact poll_locked rfl stepped gets

end CoroRuntime.Mutex
