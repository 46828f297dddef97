import CoroRuntime.Fiber.Fiber
import CoroRuntime.Foundation.Execution

/-! # Handles of fibers

`FiberHandle` of `include/coro/task/fiber.h` is a `JoinHandle` that its destructor detaches.
Its move assignment is the one of `JoinHandle`, which closes the handle that it overwrites.
-/

namespace CoroRuntime.Fiber

open Foundation Completion

universe u v w

structure JoinHandle (Id : Type u) where
  /-- `m_state` and `m_task_ref`, which are set and reset together -/
  task : Option Id := none
  finished : Bool := false
  cancelOnDestroy : Bool := true
  deriving DecidableEq, Repr

def JoinHandle.detach {Id : Type u} (handle : JoinHandle Id) : JoinHandle Id :=
  { handle with task := none }

structure State (Id Handle Scope : Type u) (Waker : Type u) (T : Type v) (Error : Type w) where
  tasks : Id → Option (Task Waker T Error) := fun _ => none
  /-- the handles that exist; one that has been moved from has no task -/
  handles : Handle → Option (JoinHandle Id) := fun _ => none
  /-- the pending lists of the coroutines' scopes -/
  children : Scope → List Id := fun _ => []

/-- What a program does with handles, each with the coroutine that the thread is polling, and
what the workers do. -/
inductive Action (Id Handle Scope : Type u) (Waker : Type u) (T : Type v) (Error : Type w)
  | spawnFiber (task : Id) (handle : Handle)
  | moveConstruct (target source : Handle)
  | moveAssign (current : Option Scope) (target source : Handle)
  | pollHandle (handle : Handle) (waker : Waker)
  | destroy (current : Option Scope) (handle : Handle)
  | poll (task : Id)
  | resume (task : Id) (run : Run T Error)
  deriving DecidableEq, Repr

section Machine

variable {Id Handle Scope Waker : Type u} {T : Type v} {Error : Type w} [DecidableEq Id]
  [DecidableEq Handle] [DecidableEq Scope] (isTaskCancelled : Error → Bool)

namespace State

def setTask (id : Id) (task : Task Waker T Error) (state : State Id Handle Scope Waker T Error) :
    State Id Handle Scope Waker T Error :=
  { state with tasks := Function.update state.tasks id (some task) }

def setHandle (handle : Handle) (held : Option (JoinHandle Id))
    (state : State Id Handle Scope Waker T Error) : State Id Handle Scope Waker T Error :=
  { state with handles := Function.update state.handles handle held }

def cancel (id : Id) (state : State Id Handle Scope Waker T Error) :
    State Id Handle Scope Waker T Error :=
  match state.tasks id with
  | none => state
  | some task => state.setTask id { task with cancelled := true }

def addChild (current : Option Scope) (id : Id) (state : State Id Handle Scope Waker T Error) :
    State Id Handle Scope Waker T Error :=
  match current with
  | none => state
  | some scope =>
    { state with children := Function.update state.children scope (id :: state.children scope) }

def close (current : Option Scope) (handle : JoinHandle Id)
    (state : State Id Handle Scope Waker T Error) : State Id Handle Scope Waker T Error :=
  match handle.task with
  | none => state
  | some id =>
    if handle.finished then state
    else if handle.cancelOnDestroy then (state.cancel id).addChild current id
    else state.addChild current id

def vacate (handle : Handle) (held : JoinHandle Id)
    (state : State Id Handle Scope Waker T Error) : State Id Handle Scope Waker T Error :=
  state.setHandle handle (some { held with task := none })

def moveAssign (current : Option Scope) (target source : Handle) (overwritten held : JoinHandle Id)
    (state : State Id Handle Scope Waker T Error) : State Id Handle Scope Waker T Error :=
  if target = source then state
  else ((state.close current overwritten).setHandle target (some held)).vacate source held

/-- `FiberHandle::~FiberHandle` detaches, and `~JoinHandle` closes what is left. -/
def destroy (current : Option Scope) (handle : Handle) (held : JoinHandle Id)
    (state : State Id Handle Scope Waker T Error) : State Id Handle Scope Waker T Error :=
  (state.close current held.detach).setHandle handle none

def step (state : State Id Handle Scope Waker T Error) :
    Action Id Handle Scope Waker T Error → Option (State Id Handle Scope Waker T Error)
  | .spawnFiber id handle =>
    match state.tasks id, state.handles handle with
    | none, none => some ((state.setTask id {}).setHandle handle (some { task := some id }))
    | _, _ => none
  | .moveConstruct target source =>
    match state.handles target, state.handles source with
    | none, some held => some ((state.setHandle target (some held)).vacate source held)
    | _, _ => none
  | .moveAssign current target source =>
    match state.handles target, state.handles source with
    | some overwritten, some held =>
      some (state.moveAssign current target source overwritten held)
    | _, _ => none
  | .pollHandle handle waker =>
    match state.handles handle with
    | none => none
    | some held =>
      match held.task.bind fun id => (state.tasks id).map (id, ·) with
      | none => none
      | some (id, task) =>
        some ((state.setTask id { task with state := (task.state.poll waker).2 }).setHandle
          handle (some { held with finished := held.finished || task.state.terminated }))
  | .destroy current handle =>
    match state.handles handle with
    | none => none
    | some held => some (state.destroy current handle held)
  | .poll id =>
    match state.tasks id with
    | none => none
    | some task => if task.polling then none else some (state.setTask id task.poll)
  | .resume id run =>
    match state.tasks id with
    | none => none
    | some task =>
      if task.polling then some (state.setTask id (task.resume isTaskCancelled run)) else none

end State

def machine : Machine (State Id Handle Scope Waker T Error)
    (Action Id Handle Scope Waker T Error) where
  initial := {}
  step := State.step isTaskCancelled

def JoinHandle.live (handle : JoinHandle Id) : Bool :=
  handle.task.isSome && !handle.finished

def overwritesNoLiveHandle (state : State Id Handle Scope Waker T Error) :
    Action Id Handle Scope Waker T Error → Prop
  | .moveAssign _ target source =>
    target = source ∨ (state.handles target).all (fun held => !held.live) = true
  | _ => True

instance (state : State Id Handle Scope Waker T Error)
    (action : Action Id Handle Scope Waker T Error) :
    Decidable (overwritesNoLiveHandle state action) :=
  match action with
  | .moveAssign _ target source => inferInstanceAs (Decidable (target = source ∨
      (state.handles target).all (fun held => !held.live) = true))
  | .spawnFiber .. | .moveConstruct .. | .pollHandle .. | .destroy .. | .poll _ | .resume .. =>
    isTrue trivial

/-- No task has been asked to cancel or been left to a coroutine, and no entry callable has
lost its stack. -/
structure RunsToCompletion (state : State Id Handle Scope Waker T Error) : Prop where
  uncancelled : ∀ id task, state.tasks id = some task → task.cancelled = false
  unregistered : ∀ scope, state.children scope = []
  kept : ∀ id task, state.tasks id = some task → task.Kept

def Action.drops : Action Id Handle Scope Waker T Error → Bool
  | .moveAssign .. | .destroy .. => true
  | _ => false

def Detaches (state next : State Id Handle Scope Waker T Error) : Prop :=
  next.tasks = state.tasks ∧ next.children = state.children

section Moves

variable {isTaskCancelled} {state next : State Id Handle Scope Waker T Error}

omit [DecidableEq Id] [DecidableEq Handle] [DecidableEq Scope] in
theorem RunsToCompletion.of_same (runs : RunsToCompletion state)
    (same : Detaches state next) : RunsToCompletion next := by
  constructor
  · rw [same.1]
    exact runs.uncancelled
  · rw [same.2]
    exact runs.unregistered
  · rw [same.1]
    exact runs.kept

omit [DecidableEq Handle] [DecidableEq Scope] in
theorem RunsToCompletion.setTask (runs : RunsToCompletion state) (id : Id)
    (uncancelled : task.cancelled = false) (kept : task.Kept) :
    RunsToCompletion (state.setTask id task) := by
  have changed : ∀ other entry, (state.setTask id task).tasks other = some entry →
      entry = task ∨ state.tasks other = some entry := by
    intro other entry found
    by_cases same : other = id
    · subst same
      simp only [State.setTask, Function.update_self, Option.some.injEq] at found
      exact .inl found.symm
    · exact .inr (by simpa [State.setTask, same] using found)
  constructor
  · intro other entry found
    rcases changed other entry found with rfl | before
    · exact uncancelled
    · exact runs.uncancelled other entry before
  · exact runs.unregistered
  · intro other entry found
    rcases changed other entry found with rfl | before
    · exact kept
    · exact runs.kept other entry before

omit [DecidableEq Handle] in
theorem close_of_not_live (current : Option Scope) (notLive : handle.live = false) :
    state.close current handle = state := by
  unfold State.close
  cases task : handle.task with
  | none => rfl
  | some id =>
    have finished : handle.finished = true := by simpa [JoinHandle.live, task] using notLive
    simp [finished]

theorem detaches_of_drops (admitted : overwritesNoLiveHandle state action)
    (drops : action.drops = true) (step : state.step isTaskCancelled action = some next) :
    Detaches state next := by
  cases action with
  | moveAssign current target source =>
    simp only [State.step] at step
    split at step <;> cases step
    rename_i overwritten held isTarget isSource
    unfold State.moveAssign
    split
    · exact ⟨rfl, rfl⟩
    · rename_i different
      have notLive : overwritten.live = false := by
        simpa [overwritesNoLiveHandle, different, isTarget] using admitted
      rw [close_of_not_live current notLive]
      exact ⟨rfl, rfl⟩
  | destroy current handle =>
    simp only [State.step] at step
    split at step <;> cases step
    exact ⟨rfl, rfl⟩
  | spawnFiber | moveConstruct | pollHandle | poll | resume => cases drops

theorem RunsToCompletion.step (runs : RunsToCompletion state)
    (admitted : overwritesNoLiveHandle state action)
    (step : state.step isTaskCancelled action = some next) : RunsToCompletion next := by
  cases action with
  | spawnFiber id handle =>
    simp only [State.step] at step
    split at step <;> cases step
    exact (runs.setTask id rfl (by simp [Task.Kept])).of_same ⟨rfl, rfl⟩
  | moveConstruct target source =>
    simp only [State.step] at step
    split at step <;> cases step
    exact runs.of_same ⟨rfl, rfl⟩
  | moveAssign current target source | destroy current handle =>
    exact runs.of_same (detaches_of_drops admitted rfl step)
  | pollHandle handle waker =>
    simp only [State.step] at step
    split at step
    · cases step
    · split at step <;> cases step
      rename_i id task found
      simp only [Option.bind_eq_some_iff, Option.map_eq_some_iff, Prod.mk.injEq] at found
      rcases found with ⟨other, _, before, found, rfl, rfl⟩
      refine (runs.setTask other ?_ ?_).of_same ⟨rfl, rfl⟩
      · exact runs.uncancelled other before found
      · exact runs.kept other before found
  | poll id =>
    simp only [State.step] at step
    split at step
    · cases step
    · rename_i task found
      rcases of_unless step with ⟨_, rfl⟩
      have uncancelled := runs.uncancelled _ _ found
      exact runs.setTask _ (task.cancelled_poll.trans uncancelled)
        (Task.kept_poll uncancelled (runs.kept _ _ found))
  | resume id run =>
    simp only [State.step] at step
    split at step
    · cases step
    · rename_i task found
      rcases of_guard step with ⟨_, rfl⟩
      exact runs.setTask _
        ((task.cancelled_resume isTaskCancelled run).trans (runs.uncancelled _ _ found))
        (Task.kept_resume (runs.kept _ _ found))

theorem runsToCompletion_of_reaches
    (reached : (machine isTaskCancelled).Reaches overwritesNoLiveHandle state) :
    RunsToCompletion state := by
  refine reached.invariant RunsToCompletion
    (fun _ _ _ runs admitted step => runs.step admitted step) ?_
  constructor <;> simp [machine]

end Moves

/-! ## Fibers run to completion -/

/-- As long as no live handle is assigned to, no fiber is cancelled or registered with a
coroutine, none is destroyed on its way, and a handle that goes detaches its fiber. -/
theorem started_fiber_runs_to_completion (state : State Id Handle Scope Waker T Error)
    (reached : (machine isTaskCancelled).Reaches overwritesNoLiveHandle state) :
    RunsToCompletion state ∧ ∀ action next, overwritesNoLiveHandle state action →
      action.drops = true → (machine isTaskCancelled).step state action = some next →
        Detaches state next := by
  refine ⟨runsToCompletion_of_reaches reached, ?_⟩
  intro action next admitted drops step
  exact detaches_of_drops admitted drops step

end Machine

/-- A coroutine holds the handle of a fiber that has yielded, and of another one. -/
def twoFibers : List (Action Nat Nat Unit Unit Nat Unit) :=
  [.spawnFiber 0 0, .poll 0, .resume 0 .yields, .spawnFiber 1 1]

theorem started_fiber_runs_to_completion_twoFibers :
    ∃ state : State Nat Nat Unit Unit Nat Unit,
      (machine fun _ => false).Reaches overwritesNoLiveHandle state ∧
      (state.tasks 0).map (·.entry) = some .underway ∧ state.handles 2 = none ∧
      state.handles 0 = some { task := some 1 } ∧ RunsToCompletion state := by
  refine exists_of_exec
    (twoFibers ++ [.moveConstruct 2 0, .moveAssign (some ()) 0 1, .destroy (some ()) 2])
    (by decide +kernel) fun reached =>
      ⟨?_, ?_, ?_, (started_fiber_runs_to_completion _ _ reached).1⟩
  all_goals decide +kernel

/-- When the coroutine assigns the second handle to the first, the first fiber is cancelled,
and its next poll destroys the stack that its entry callable is on. -/
theorem overwritten_fiber_is_destroyed :
    ∃ state : State Nat Nat Unit Unit Nat Unit,
      (machine fun _ => false).Reaches anyMove state ∧ ¬RunsToCompletion state ∧
      (state.tasks 0).map (fun task => (task.entry, task.future.isSome, task.cancelled)) =
        some (.underway, false, true) ∧ state.children () = [0] := by
  refine exists_of_exec (twoFibers ++ [.moveAssign (some ()) 0 1, .poll 0]) (by decide +kernel)
    fun _ => ⟨fun runs => ?_, by decide +kernel, by decide +kernel⟩
  exact absurd (runs.unregistered ()) (by decide +kernel)

end CoroRuntime.Fiber
