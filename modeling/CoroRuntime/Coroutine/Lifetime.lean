import CoroRuntime.Coroutine.Awaiting
import CoroRuntime.Coroutine.Structured

/-! # The frame and the scope over the life of a coroutine -/

namespace CoroRuntime.Coroutine

open Foundation

variable {Child : Type} {kind : Kind} {state next : CoroState Child}

/-! ## The frame in each phase -/

def Goal.Fits : Goal → Frame → Prop
  | .dropped, frame => frame ≠ .live
  | .completed, frame => frame ≠ .live ∧ frame ≠ .destroyed
  | .suspended, frame => frame = .live

def Phase.Fits : Phase → Frame → Prop
  | .created, frame | .cancelling, frame | .repolling, frame | .resumed, frame
  | .destroying .cancelled, frame => frame = .live
  | .destroying .completed, frame => frame ≠ .live ∧ frame ≠ .destroyed
  | .destroying .destructor, frame => frame ≠ .destroyed
  | .draining _ goal, frame => goal.Fits frame
  | .gone, frame => frame = .destroyed
  | .returned _, _ => True

theorem CoroState.drained_fits (fits : goal.Fits state.frame) :
    (state.drained kind goal).phase.Fits (state.drained kind goal).frame := by
  unfold CoroState.drained
  split
  · trivial
  · trivial
  · split
    · exact fits
    · trivial
    · trivial

theorem CoroState.drain_fits (fits : goal.Fits state.frame) :
    (state.drain kind goal).phase.Fits (state.drain kind goal).frame := by
  unfold CoroState.drain
  split
  · exact drained_fits fits
  · exact fits

theorem CoroState.sweep_fits (fits : goal.Fits state.frame) :
    (state.sweep kind again goal).phase.Fits (state.sweep kind again goal).frame := by
  unfold CoroState.sweep
  split
  · exact drained_fits (by exact fits)
  · split
    · trivial
    · exact fits

theorem CoroState.finish_fits (fits : Goal.completed.Fits state.frame) :
    (state.finish kind).phase.Fits (state.finish kind).frame := by
  unfold CoroState.finish
  split
  · trivial
  · exact drain_fits fits

theorem CoroState.drainAwaited_fits (live : state.frame = .live) :
    (state.drainAwaited kind).phase.Fits (state.drainAwaited kind).frame := by
  unfold CoroState.drainAwaited
  split
  · split <;> exact live
  · exact live

theorem CoroState.poll_fits : (state.poll kind).phase.Fits (state.poll kind).frame := by
  unfold CoroState.poll
  split
  · split
    · assumption
    · exact drainAwaited_fits ‹_›
  · exact drain_fits ‹_›
  · trivial
  · rename_i frame
    exact finish_fits (by simp [Goal.Fits, frame])
  · cases state.pollCurrent <;> assumption

theorem Phase.Fits.step [DecidableEq Child] (fits : state.phase.Fits state.frame)
    (effect : Effect kind state move next) : next.phase.Fits next.frame := by
  cases effect with
  | children => exact fits
  | closed handle =>
    cases finished : handle.finished with
    | true =>
      rw [CoroState.close_of_finished finished]
      exact fits
    | false =>
      rcases state.close_of_unfinished finished with ⟨status, _, closed⟩
      rw [closed]
      exact fits
  | cancelled => exact fits
  | polled => exact CoroState.poll_fits
  | abandoned _ gone => exact gone
  | destructed _ present => exact present
  | cancelReturned phase =>
    rw [phase] at fits
    exact CoroState.drainAwaited_fits (by exact fits)
  | repolled ready phase =>
    rw [phase] at fits
    unfold CoroState.repollReturns
    split
    · trivial
    · split <;> exact fits
  | destroyed reason =>
    cases reason with
    | cancelled => exact CoroState.drain_fits (by simp [Goal.Fits])
    | destructor => rfl
    | completed =>
      simp only [CoroState.destroyReturns]
      split <;> trivial
  | swept again goal phase =>
    rw [phase] at fits
    exact CoroState.sweep_fits fits
  | awaited _ phase =>
    rw [phase] at fits
    exact CoroState.drain_fits (by exact fits)
  | yielded => trivial
  | completed => exact CoroState.finish_fits (by simp [Goal.Fits])

/-! ## The calls of `m_handle.destroy()` -/

/-- How often the frame has been destroyed by now, or is being destroyed. -/
def CoroState.destructions (state : CoroState Child) : Nat :=
  if state.frame = .destroyed ∨ state.phase.isDestroying then 1 else 0

/-- The calls that are made when the coroutine goes from one state to another. -/
def CoroState.destroysIn (state next : CoroState Child) : Nat :=
  if next.phase.isDestroying ∧ ¬ state.phase.isDestroying then 1 else 0

theorem Phase.Fits.present {phase : Phase} (fits : phase.Fits frame)
    (destroying : phase.isDestroying) : frame ≠ .destroyed := by
  cases phase with
  | destroying reason =>
    cases reason with
    | cancelled =>
      rw [show frame = .live from fits]
      simp
    | completed => exact fits.2
    | destructor => exact fits
  | _ => cases destroying

theorem CoroState.destructions_of_frame_kept (fits : next.phase.Fits next.frame)
    (outside : state.phase.isDestroying = false)
    (kept : next.frame = .destroyed ↔ state.frame = .destroyed) :
    next.destructions = state.destructions + state.destroysIn next := by
  simp only [CoroState.destructions, CoroState.destroysIn, outside, kept]
  cases destroying : next.phase.isDestroying with
  | false => simp
  | true =>
    have present := fits.present destroying
    rw [ne_eq, kept] at present
    simp [present]

/-- The frame is not destroyed, and the scope and the tasks are as before. -/
structure CoroState.Kept (state next : CoroState Child) : Prop where
  frame : next.frame = .destroyed ↔ state.frame = .destroyed
  pending : next.pending = state.pending
  status : next.status = state.status

theorem CoroState.drained_kept (goal : Goal) : state.Kept (state.drained kind goal) := by
  unfold CoroState.drained
  split
  · exact ⟨.rfl, rfl, rfl⟩
  · exact ⟨.rfl, rfl, rfl⟩
  · split <;> exact ⟨.rfl, rfl, rfl⟩

theorem CoroState.drain_kept (goal : Goal) : state.Kept (state.drain kind goal) := by
  unfold CoroState.drain
  split
  · exact drained_kept goal
  · exact ⟨.rfl, rfl, rfl⟩

theorem CoroState.finish_kept : state.Kept (state.finish kind) := by
  unfold CoroState.finish
  split
  · rename_i frame
    exact ⟨by simp [CoroState.give, frame], rfl, rfl⟩
  · exact drain_kept .completed

theorem CoroState.drainAwaited_kept : state.Kept (state.drainAwaited kind) := by
  unfold CoroState.drainAwaited
  split
  · split <;> exact ⟨.rfl, rfl, rfl⟩
  · exact ⟨.rfl, rfl, rfl⟩

theorem CoroState.poll_kept : state.Kept (state.poll kind) := by
  unfold CoroState.poll
  split
  · split
    · exact ⟨.rfl, rfl, rfl⟩
    · exact drainAwaited_kept
  · exact drain_kept .dropped
  · exact ⟨.rfl, rfl, rfl⟩
  · exact finish_kept
  · exact ⟨.rfl, rfl, rfl⟩

theorem CoroState.repollReturns_kept (ready : Bool) :
    state.Kept (state.repollReturns kind ready) := by
  unfold CoroState.repollReturns
  split
  · exact ⟨.rfl, rfl, rfl⟩
  · split <;> exact ⟨.rfl, rfl, rfl⟩

theorem CoroState.sweep_eq (state : CoroState Child) (kind : Kind) (again : Bool) (goal : Goal) :
    ∃ phase, state.sweep kind again goal = { state with
      pending := state.pending.filter fun child => !state.isDone child
      phase := phase } := by
  unfold CoroState.sweep
  split
  · rename_i empty
    rw [show state.pending.filter (fun child => !state.isDone child) = [] from empty]
    unfold CoroState.drained
    split
    · exact ⟨_, rfl⟩
    · exact ⟨_, rfl⟩
    · split <;> exact ⟨_, rfl⟩
  · split <;> exact ⟨_, rfl⟩

theorem CoroState.drain_dropped (kind : Kind) :
    state.drain kind .dropped = { state with
      phase := if state.pending = [] then .returned .dropped else .draining false .dropped } := by
  unfold CoroState.drain
  split
  · rename_i empty
    rw [if_pos empty]
    rfl
  · rename_i left
    rw [if_neg left]

theorem CoroState.destroyReturns_destructions (phase : state.phase = .destroying reason) :
    (state.destroyReturns kind reason).destructions =
      state.destructions + state.destroysIn (state.destroyReturns kind reason) := by
  have before : state.phase.isDestroying := by
    rw [phase]
    rfl
  have gone : (state.destroyReturns kind reason).frame = .destroyed := by
    cases reason with
    | cancelled => exact (drain_kept .dropped).frame.mpr rfl
    | destructor => rfl
    | completed =>
      simp only [CoroState.destroyReturns]
      split <;> rfl
  simp [CoroState.destructions, CoroState.destroysIn, before, gone]

/-! ## The scope -/

inductive ScopeChange (state next : CoroState Child) : Prop
  | kept (pending : next.pending = state.pending)
  | registered (child : Child) (pending : next.pending = state.pending ++ [child])
  | swept (pending : next.pending = state.pending.filter fun child => !state.isDone child)

theorem ScopeChange.of_kept {changed : CoroState Child} (kept : changed.Kept next)
    (pending : changed.pending = state.pending) (status : changed.status = state.status) :
    ScopeChange state next ∧ ∀ child, state.isDone child → next.isDone child := by
  refine ⟨.kept (kept.pending.trans pending), fun child done => ?_⟩
  rwa [CoroState.isDone, kept.status, status]

theorem CoroState.destroyReturns_scope (reason : Teardown) :
    (state.destroyReturns kind reason).pending = state.pending ∧
      (state.destroyReturns kind reason).status = state.status := by
  cases reason with
  | cancelled => exact ⟨(drain_kept .dropped).pending, (drain_kept .dropped).status⟩
  | destructor => exact ⟨rfl, rfl⟩
  | completed =>
    simp only [CoroState.destroyReturns]
    split <;> exact ⟨rfl, rfl⟩

section Steps

variable [DecidableEq Child] {move : Move Child}

/-- The destruction of a handle changes nothing but the tasks, the handles and the
scope. -/
theorem CoroState.close_eq (state : CoroState Child) (handle : Handle Child) :
    ∃ status handles pending dropped,
      (∀ child, state.isDone child → (status child).isDone) ∧
      (pending = state.pending ∨ pending = state.pending ++ [handle.child]) ∧
      state.close handle = { state with
        status := status, handles := handles, pending := pending, dropped := dropped } := by
  cases finished : handle.finished with
  | true => exact ⟨_, _, _, _, fun _ done => done, .inl rfl, close_of_finished finished⟩
  | false =>
    rcases state.close_of_unfinished finished with ⟨status, same, closed⟩
    refine ⟨_, _, _, _, fun child done => (same child).trans done, ?_, closed⟩
    cases state.currentCoro handle with
    | own => exact .inr rfl
    | outside => exact .inl rfl

theorem Phase.isDestroying_of_isIdle {phase : Phase} (idle : phase.isIdle) :
    phase.isDestroying = false := by
  cases phase <;> first | rfl | cases idle

theorem Effect.destructions (effect : Effect kind state move next)
    (fits : state.phase.Fits state.frame) :
    next.destructions = state.destructions + state.destroysIn next := by
  have fitting := fits.step effect
  cases effect with
  | children | cancelled => simp [CoroState.destructions, CoroState.destroysIn]
  | closed handle =>
    rcases state.close_eq handle with ⟨_, _, _, _, _, _, closed⟩
    rw [closed]
    simp [CoroState.destructions, CoroState.destroysIn]
  | polled idle =>
    exact CoroState.destructions_of_frame_kept fitting (Phase.isDestroying_of_isIdle idle)
      CoroState.poll_kept.frame
  | abandoned idle | destructed idle =>
    exact CoroState.destructions_of_frame_kept fitting (Phase.isDestroying_of_isIdle idle) .rfl
  | cancelReturned phase =>
    apply CoroState.destructions_of_frame_kept fitting
    · rw [phase]
      rfl
    · exact CoroState.drainAwaited_kept.frame
  | repolled ready phase =>
    apply CoroState.destructions_of_frame_kept fitting
    · rw [phase]
      rfl
    · exact (CoroState.repollReturns_kept ready).frame
  | destroyed reason phase => exact CoroState.destroyReturns_destructions phase
  | swept again goal phase =>
    apply CoroState.destructions_of_frame_kept fitting
    · rw [phase]
      rfl
    · rcases state.sweep_eq kind again goal with ⟨_, swept⟩
      rw [swept]
  | awaited cancellable phase =>
    apply CoroState.destructions_of_frame_kept fitting
    · rw [phase]
      rfl
    · exact (CoroState.drain_kept .suspended).frame
  | yielded phase =>
    apply CoroState.destructions_of_frame_kept fitting
    · rw [phase]
      rfl
    · rfl
  | completed failed finalValue phase =>
    rw [phase] at fits
    apply CoroState.destructions_of_frame_kept fitting
    · rw [phase]
      rfl
    · rw [CoroState.finish_kept.frame, show state.frame = .live from fits]
      simp

theorem Effect.scope (effect : Effect kind state move next) :
    ScopeChange state next ∧ ∀ child, state.isDone child → next.isDone child := by
  cases effect with
  | children status handles keeps => exact ⟨.kept rfl, keeps⟩
  | closed handle =>
    rcases state.close_eq handle with ⟨_, _, _, _, keeps, pending, closed⟩
    rw [closed]
    rcases pending with same | added
    · exact ⟨.kept same, keeps⟩
    · exact ⟨.registered _ added, keeps⟩
  | cancelled | abandoned | destructed | yielded => exact ⟨.kept rfl, fun _ done => done⟩
  | polled => exact ScopeChange.of_kept CoroState.poll_kept rfl rfl
  | cancelReturned => exact ScopeChange.of_kept CoroState.drainAwaited_kept rfl rfl
  | repolled ready => exact ScopeChange.of_kept (CoroState.repollReturns_kept ready) rfl rfl
  | destroyed reason =>
    refine ⟨.kept (CoroState.destroyReturns_scope reason).1, fun child done => ?_⟩
    rwa [CoroState.isDone, (CoroState.destroyReturns_scope reason).2]
  | swept again goal =>
    rcases state.sweep_eq kind again goal with ⟨_, swept⟩
    rw [swept]
    exact ⟨.swept rfl, fun _ done => done⟩
  | awaited => exact ScopeChange.of_kept (CoroState.drain_kept .suspended) rfl rfl
  | completed => exact ScopeChange.of_kept CoroState.finish_kept rfl rfl

end Steps

/-! ## `Dropped` -/

/-- The last poll returned `Dropped` only if the scope had no child left. -/
def CoroState.Empty (state : CoroState Child) : Prop :=
  state.phase = .returned .dropped → state.pending = []

theorem CoroState.drained_empty (empty : state.pending = []) : (state.drained kind goal).Empty :=
  fun _ => (drained_kept goal).pending.trans empty

theorem CoroState.drain_empty : (state.drain kind goal).Empty := by
  unfold CoroState.drain
  split
  · exact drained_empty ‹_›
  · nofun

theorem CoroState.sweep_empty : (state.sweep kind again goal).Empty := by
  unfold CoroState.sweep
  split
  · exact drained_empty rfl
  · split <;> nofun

theorem CoroState.finish_empty : (state.finish kind).Empty := by
  unfold CoroState.finish
  split
  · nofun
  · exact drain_empty

theorem CoroState.drainAwaited_empty : (state.drainAwaited kind).Empty := by
  unfold CoroState.drainAwaited
  split
  · split <;> nofun
  · nofun

theorem CoroState.poll_empty : (state.poll kind).Empty := by
  unfold CoroState.poll
  split
  · split
    · nofun
    · exact drainAwaited_empty
  · exact drain_empty
  · split <;> nofun
  · exact finish_empty
  · cases state.pollCurrent <;> nofun

theorem CoroState.repollReturns_empty : (state.repollReturns kind ready).Empty := by
  unfold CoroState.repollReturns
  split
  · nofun
  · split <;> nofun

theorem CoroState.destroyReturns_empty : (state.destroyReturns kind reason).Empty := by
  cases reason with
  | cancelled => exact drain_empty
  | destructor => simp [CoroState.destroyReturns, CoroState.Empty]
  | completed =>
    simp only [CoroState.destroyReturns]
    split <;> simp [CoroState.Empty, CoroState.give]

theorem CoroState.Empty.step [DecidableEq Child] (empty : state.Empty)
    (effect : Effect kind state move next) : next.Empty := by
  cases effect with
  | children => exact empty
  | closed handle _ destroys =>
    rcases state.close_eq handle with ⟨_, _, _, _, _, _, closed⟩
    rw [closed]
    intro returned
    rw [show state.phase = .returned .dropped from returned] at destroys
    cases destroys
  | cancelled => exact empty
  | polled => exact poll_empty
  | abandoned => nofun
  | destructed => nofun
  | cancelReturned => exact drainAwaited_empty
  | repolled => exact repollReturns_empty
  | destroyed => exact destroyReturns_empty
  | swept => exact sweep_empty
  | awaited => exact drain_empty
  | yielded => nofun
  | completed => exact finish_empty

end CoroRuntime.Coroutine
