import CoroRuntime.Coroutine.Coro

/-! # What a move can do to a coroutine -/

namespace CoroRuntime.Coroutine

open Foundation

variable {Child : Type} {kind : Kind} {state next : CoroState Child}

theorem TaskStatus.isDone_cancelTask (status : TaskStatus) :
    status.cancelTask.isDone = status.isDone := by
  cases status <;> rfl

def CoroState.isDone (state : CoroState Child) (child : Child) : Bool :=
  (state.status child).isDone

inductive Effect [DecidableEq Child] (kind : Kind) (state : CoroState Child) :
    Move Child → CoroState Child → Prop
  /-- Tasks make progress, or handles are made, moved, marked or given away. -/
  | children {move} (status : Child → TaskStatus) (handles : List (Handle Child))
      (keeps : ∀ child, state.isDone child → (status child).isDone) :
      Effect kind state move { state with status := status, handles := handles }
  | closed {child} (handle : Handle Child) (found : state.find child = some handle)
      (destroys : state.phase.destroys handle.place) :
      Effect kind state (.close child) (state.close handle)
  | cancelled (idle : state.phase.isIdle) :
      Effect kind state .cancel { state with cancelled := true }
  | polled (idle : state.phase.isIdle) : Effect kind state .poll (state.poll kind)
  | abandoned (idle : state.phase.isIdle) (gone : state.frame = .destroyed) :
      Effect kind state .destructor { state with phase := .gone }
  | destructed (idle : state.phase.isIdle) (present : state.frame ≠ .destroyed) :
      Effect kind state .destructor { state with phase := .destroying .destructor }
  | cancelReturned (phase : state.phase = .cancelling) :
      Effect kind state .cancelReturns (state.cancelReturns kind)
  | repolled (ready : Bool) (phase : state.phase = .repolling) :
      Effect kind state (.repollReturns ready) (state.repollReturns kind ready)
  | destroyed (reason : Teardown) (phase : state.phase = .destroying reason)
      (empty : state.handles = []) :
      Effect kind state .destroyReturns (state.destroyReturns kind reason)
  | swept (again : Bool) (goal : Goal) (phase : state.phase = .draining again goal) :
      Effect kind state .sweep (state.sweep kind again goal)
  | awaited (cancellable : Bool) (phase : state.phase = .resumed) :
      Effect kind state (.await cancellable)
        ({ state with
          pollCurrent := true
          cancelCurrent := state.cancelCurrent || cancellable }.drain kind .suspended)
  | yielded (phase : state.phase = .resumed) (stream : kind ≠ .coro) :
      Effect kind state .yield (state.give .item)
  | completed (failed finalValue : Bool) (phase : state.phase = .resumed)
      (final : finalValue → kind = .stream true)
      (left : ∀ handle ∈ state.handles, handle.place = .parameter) :
      Effect kind state (.complete failed finalValue)
        ({ state with frame := .done failed finalValue }.finish kind)

section Inversion

variable [DecidableEq Child] {move : Move Child}

theorem CoroState.isDone_setStatus (child : Child) (status : TaskStatus)
    (keeps : state.isDone child → status.isDone) (other : Child) (done : state.isDone other) :
    ((state.setStatus child status).status other).isDone := by
  by_cases same : other = child
  · subst same
    simpa [CoroState.setStatus] using keeps done
  · simp only [CoroState.setStatus, Function.update_of_ne same]
    exact done

theorem Effect.of_setStatus (child : Child) (status : TaskStatus)
    (keeps : state.isDone child → status.isDone) :
    Effect kind state move (state.setStatus child status) :=
  .children _ state.handles (state.isDone_setStatus child status keeps)

theorem Effect.of_handles (handles : List (Handle Child)) :
    Effect kind state move { state with handles := handles } :=
  .children state.status handles fun _ done => done

theorem effect (step : state.step kind move = some next) : Effect kind state move next := by
  cases move with simp only [CoroState.step] at step
  | poll =>
    rcases of_guard step with ⟨idle, rfl⟩
    exact .polled idle
  | cancel =>
    rcases of_guard step with ⟨idle, rfl⟩
    exact .cancelled idle
  | destructor =>
    rcases of_guard step with ⟨idle, rfl⟩
    split
    · exact .abandoned idle ‹_›
    · exact .destructed idle ‹_›
  | cancelReturns =>
    rcases of_guard step with ⟨phase, rfl⟩
    exact .cancelReturned phase
  | repollReturns ready =>
    rcases of_guard step with ⟨phase, rfl⟩
    exact .repolled ready phase
  | destroyReturns =>
    split at step <;> cases step
    exact .destroyed _ ‹_› ‹_›
  | sweep =>
    split at step <;> cases step
    exact .swept _ _ ‹_›
  | await cancellable =>
    rcases of_guard step with ⟨phase, rfl⟩
    exact .awaited cancellable phase
  | yield =>
    rcases of_guard step with ⟨⟨phase, stream⟩, rfl⟩
    exact .yielded phase stream
  | complete failed finalValue =>
    rcases of_guard step with ⟨⟨phase, final, left⟩, rfl⟩
    exact .completed failed finalValue phase final left
  | spawn child handleKind place nested =>
    rcases of_guard step with ⟨⟨_, fresh⟩, rfl⟩
    refine .children _ _ (state.isDone_setStatus child _ ?_)
    simp [CoroState.isDone, fresh, TaskStatus.isDone]
  | move child place nested | onTaskComplete child =>
    split at step
    · rcases of_guard step with ⟨_, rfl⟩
      exact .of_handles _
    · cases step
  | handOver child =>
    rcases Option.map_eq_some_iff.mp step with ⟨handle, _, made⟩
    cases made
    exact .of_handles _
  | detach child =>
    split at step
    · split at step <;> cases step
      exact .of_handles _
    · cases step
  | seeFinished child =>
    split at step
    · split at step
      · rcases of_guard step with ⟨_, rfl⟩
        exact .of_handles _
      · cases step
    · cases step
  | close child =>
    split at step
    · rcases of_guard step with ⟨destroys, rfl⟩
      exact .closed _ ‹_› destroys
    · cases step
  | cancelTask child =>
    cases step
    refine .of_setStatus child _ ?_
    rw [TaskStatus.isDone_cancelTask]
    exact id
  | terminate child =>
    split at step <;> cases step
    exact .of_setStatus child _ fun _ => rfl
  | release child =>
    rcases of_guard step with ⟨_, rfl⟩
    exact .of_setStatus child _ fun _ => rfl

end Inversion

end CoroRuntime.Coroutine
