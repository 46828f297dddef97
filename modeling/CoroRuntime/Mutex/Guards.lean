import CoroRuntime.Mutex.Lock

/-! # Acquisitions and their guards -/

namespace CoroRuntime.Mutex

open Foundation

variable {Guard Future Waker : Type} {state next : MutexState Guard Future Waker}

/-- Each acquisition is released when the guard that finally holds it goes away and at no
other time, at most one is outstanding, and no thread has called `release()` inside a
critical section. -/
structure GuardsDisciplined (state : MutexState Guard Future Waker) : Prop where
  releasedOnce : ∀ acquisition < state.acquisitions,
    state.released acquisition = if (state.holder acquisition).isSome then 0 else 1
  exclusive : ∀ first second, (state.holder first).isSome → (state.holder second).isSome →
    first = second
  notReentered : state.reentered = false

/-- What a step that acquires nothing does to the history of acquisitions. -/
structure AcquiresNothing (state next : MutexState Guard Future Waker) : Prop where
  acquisitions : next.acquisitions = state.acquisitions
  reentered : next.reentered = state.reentered
  holder : ∀ acquisition, state.holder acquisition = none → next.holder acquisition = none

section Steps

variable {internal : InternalMutex} {moves : GuardMoves}

theorem AcquiresNothing.refl (state : MutexState Guard Future Waker) :
    AcquiresNothing state state :=
  ⟨rfl, rfl, fun _ none => none⟩

theorem AcquiresNothing.release (kept : AcquiresNothing state next) :
    AcquiresNothing state next.release := by
  unfold MutexState.release
  split <;> exact ⟨kept.acquisitions, kept.reentered, kept.holder⟩

theorem AcquiresNothing.destroyGuard (kept : AcquiresNothing state next) (guard : MutexGuard) :
    AcquiresNothing state (next.destroyGuard internal false guard) := by
  unfold MutexState.destroyGuard
  split
  · exact kept
  · exact AcquiresNothing.release
      ⟨kept.acquisitions, by simpa using kept.reentered, kept.holder⟩

variable [DecidableEq Guard]

theorem AcquiresNothing.giveUp (kept : AcquiresNothing state next) {id : Guard} :
    AcquiresNothing state (next.giveUp id left) where
  acquisitions := kept.acquisitions
  reentered := kept.reentered
  holder := by
    intro acquisition none
    simp [MutexState.giveUp, kept.holder acquisition none]

theorem AcquiresNothing.transfer (kept : AcquiresNothing state next) {guard : MutexGuard} :
    AcquiresNothing state (next.transfer moves source target guard) where
  acquisitions := kept.acquisitions
  reentered := kept.reentered
  holder := by
    intro acquisition none
    simp [MutexState.transfer, kept.holder acquisition none]

/-- The guard that a poll moves out of its parameter leaves a copy there, and that copy is
destroyed inside the critical section. -/
theorem acquire_reenters [DecidableEq Future] (internal : InternalMutex)
    (state : MutexState Guard Future Waker) (id : Future) (result : Guard) :
    (state.acquire internal .defaulted id result).reentered = true ∧
    (state.acquire internal .defaulted id result).acquisitions = state.acquisitions + 1 := by
  cases internal with
  | standard => simp [MutexState.acquire, MutexState.destroyGuard, MutexGuard.movedFrom]
  | noOp =>
    simp only [MutexState.acquire, MutexState.destroyGuard, MutexGuard.movedFrom,
      MutexState.release]
    split <;> simp

variable [DecidableEq Future] [DecidableEq Waker]

/-- Only a poll of a free mutex acquires it. -/
theorem acquires_or_not (stepped : state.step internal moves move = some next) :
    (∃ id result, state.locked = false ∧ state.guard result = none ∧
      next = state.acquire internal moves id result) ∨ AcquiresNothing state next := by
  have kept := AcquiresNothing.refl state
  cases move with simp only [MutexState.step] at stepped
  | lock id | dropFuture id | wake =>
    split at stepped <;> cases stepped
    exact .inr ⟨rfl, rfl, fun _ none => none⟩
  | poll id waker result =>
    split at stepped
    · split at stepped
      · cases stepped
      · split at stepped
        · cases stepped
          exact .inr ⟨rfl, rfl, fun _ none => none⟩
        · rename_i free
          rw [Option.ite_none_right_eq_some] at stepped
          cases stepped.2
          exact .inl ⟨id, result, by simpa using free, stepped.1, rfl⟩
    · cases stepped
  | moveConstruct source target =>
    split at stepped <;> cases stepped
    exact .inr kept.transfer
  | moveAssign source target =>
    split at stepped
    · split at stepped
      · cases stepped
        exact .inr kept
      · split at stepped <;> cases stepped
        exact .inr (kept.giveUp.destroyGuard _).transfer
    · cases stepped
  | destroy id =>
    split at stepped
    · split at stepped <;> cases stepped
      exact .inr (kept.giveUp.destroyGuard _)
    · cases stepped

/-- Whether anything was acquired, and whether `release()` was called inside a section. -/
structure Reenters (state : MutexState Guard Future Waker) : Prop where
  acquired : state.acquisitions ≠ 0 → state.reentered = true
  untouched : state.acquisitions = 0 →
    state.reentered = false ∧ ∀ acquisition, state.holder acquisition = none

theorem Reenters.step (reenters : Reenters state)
    (stepped : state.step internal .defaulted move = some next) : Reenters next := by
  rcases acquires_or_not stepped with ⟨id, result, _, _, rfl⟩ | kept
  · have acquired := acquire_reenters internal state id result
    exact ⟨fun _ => acquired.1, by omega⟩
  · constructor
    · rw [kept.acquisitions, kept.reentered]
      exact reenters.acquired
    · rw [kept.acquisitions, kept.reentered]
      intro nothing
      rcases reenters.untouched nothing with ⟨outside, nobody⟩
      exact ⟨outside, fun acquisition => kept.holder acquisition (nobody acquisition)⟩

/-- The guards of the source are disciplined just as long as nobody gets one. -/
theorem guards_disciplined_iff
    (reached : (mutexMachine Guard Future Waker internal .defaulted).Reaches anyMove
      state) : GuardsDisciplined state ↔ state.acquisitions = 0 := by
  have reenters := reached.invariant Reenters (fun _ _ _ reenters _ => reenters.step)
    ⟨fun acquired => absurd rfl acquired, fun _ => ⟨rfl, fun _ => rfl⟩⟩
  constructor
  · intro disciplined
    by_contra acquired
    have outside := disciplined.notReentered
    rw [reenters.acquired acquired] at outside
    exact Bool.noConfusion outside
  · intro nothing
    rcases reenters.untouched nothing with ⟨outside, nobody⟩
    refine ⟨by omega, ?_, outside⟩
    intro first _ held
    rw [nobody first] at held
    exact Bool.noConfusion held

end Steps

/-- Before its first poll a future has acquired nothing. -/
theorem guards_disciplined_iff_unpolled :
    ∃ state : MutexState Unit Unit Unit,
      (mutexMachine Unit Unit Unit .standard .defaulted).Reaches anyMove state ∧
      state.future () = some .created ∧ GuardsDisciplined state := by
  refine ⟨_, ⟨[.lock ()], .cons trivial rfl (.nil _)⟩, rfl, ?_⟩
  exact (guards_disciplined_iff ⟨[.lock ()], .cons trivial rfl (.nil _)⟩).mpr rfl

/-- The first poll of a free mutex calls `release()` inside its own critical section. -/
theorem first_poll_reenters :
    ¬∀ state : MutexState Unit Unit Unit,
      (mutexMachine Unit Unit Unit .standard .defaulted).Reaches anyMove state →
      GuardsDisciplined state := by
  intro always
  have disciplined := always _ ⟨[.lock (), .poll () () ()],
    .cons trivial rfl (.cons trivial rfl (.nil _))⟩
  exact Bool.noConfusion disciplined.notReentered

end CoroRuntime.Mutex
