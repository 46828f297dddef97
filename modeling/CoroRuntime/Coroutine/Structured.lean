import CoroRuntime.Coroutine.Effects
import CoroRuntime.Foundation.Obligations

/-! # Structured concurrency

When a coroutine has delivered its outcome, the children that it has dropped have
terminated, as long as every handle to a running child is destroyed while
`t_current_coro` points at the coroutine's scope.
-/

namespace CoroRuntime.Coroutine

open Foundation

variable {Child : Type} {kind : Kind} {state next : CoroState Child}

/-! ## Where the frame can have gone -/

/-- Only a cancelled coroutine is in the cancelled path, and only a `Coro` destroys its
frame on completion. -/
def Phase.Expected (kind : Kind) (cancelled : Bool) : Phase → Prop
  | .cancelling | .destroying .cancelled => cancelled
  | .destroying .completed => kind = .coro
  | _ => True

def CoroState.FrameExplained (kind : Kind) (state : CoroState Child) : Prop :=
  state.frame = .destroyed → state.cancelled ∨ kind = .coro

structure Controlled (kind : Kind) (state : CoroState Child) : Prop where
  phase : state.phase.Expected kind state.cancelled
  frame : state.phase ≠ .gone → state.FrameExplained kind

section

variable (explained : state.FrameExplained kind)

include explained

theorem CoroState.FrameExplained.drained (goal : Goal) :
    Controlled kind (state.drained kind goal) := by
  unfold CoroState.drained
  split
  · exact ⟨trivial, fun _ => explained⟩
  · exact ⟨trivial, fun _ => explained⟩
  · split
    · exact ⟨rfl, fun _ => explained⟩
    · exact ⟨trivial, fun _ => explained⟩
    · exact ⟨trivial, fun _ => explained⟩

theorem CoroState.FrameExplained.drain (goal : Goal) : Controlled kind (state.drain kind goal) := by
  unfold CoroState.drain
  split
  · exact explained.drained goal
  · exact ⟨trivial, fun _ => explained⟩

theorem CoroState.FrameExplained.sweep (swept : Bool)
    (goal : Goal) : Controlled kind (state.sweep kind swept goal) := by
  unfold CoroState.sweep
  split
  · exact FrameExplained.drained (by exact explained) goal
  · split <;> exact ⟨trivial, fun _ => explained⟩

theorem CoroState.FrameExplained.finish : Controlled kind (state.finish kind) := by
  unfold CoroState.finish
  split
  · exact ⟨trivial, fun _ gone => nomatch gone⟩
  · exact explained.drain .completed

omit explained in
theorem CoroState.drainAwaited_controlled (cancelled : state.cancelled) :
    Controlled kind (state.drainAwaited kind) := by
  unfold CoroState.drainAwaited
  split
  · split
    · exact ⟨trivial, fun _ _ => .inl cancelled⟩
    · exact ⟨cancelled, fun _ _ => .inl cancelled⟩
  · exact ⟨cancelled, fun _ _ => .inl cancelled⟩

theorem CoroState.FrameExplained.poll : Controlled kind (state.poll kind) := by
  unfold CoroState.poll
  split
  · split
    · exact ⟨‹_›, fun _ => explained⟩
    · exact drainAwaited_controlled ‹_›
  · exact explained.drain .dropped
  · exact ⟨trivial, fun _ => explained⟩
  · exact explained.finish
  · refine ⟨?_, fun _ => explained⟩
    cases state.pollCurrent <;> trivial

theorem CoroState.FrameExplained.repollReturns
    (ready : Bool) : Controlled kind (state.repollReturns kind ready) := by
  unfold CoroState.repollReturns
  split
  · exact ⟨trivial, fun _ => explained⟩
  · split
    · exact ⟨‹_›, fun _ => explained⟩
    · exact ⟨trivial, fun _ => explained⟩

end

theorem Controlled.destroyReturns (controlled : Controlled kind state)
    (phase : state.phase = .destroying reason) :
    Controlled kind (state.destroyReturns kind reason) := by
  have expected := controlled.phase
  rw [phase] at expected
  cases reason with
  | cancelled =>
    have explained : CoroState.FrameExplained kind { state with frame := .destroyed } :=
      fun _ => .inl expected
    exact explained.drain .dropped
  | destructor => exact ⟨trivial, fun present => absurd rfl present⟩
  | completed =>
    simp only [CoroState.destroyReturns]
    split <;> exact ⟨trivial, fun _ _ => .inr expected⟩

section Close

variable [DecidableEq Child]

theorem CoroState.close_of_finished (finished : handle.finished) :
    state.close handle = { state with handles := state.handles.erase handle } := by
  simp only [CoroState.close, finished, if_true, CoroState.remove]

/-- Whichever scope the child is registered with, its task is at most cancelled. -/
theorem CoroState.close_of_unfinished (unfinished : handle.finished = false) :
    ∃ status : Child → TaskStatus, (∀ child, (status child).isDone = state.isDone child) ∧
      state.close handle = { state with
        status := status
        handles := state.handles.erase handle
        pending := match state.currentCoro handle with
          | .own => state.pending ++ [handle.child]
          | .outside => state.pending
        dropped := state.dropped ++ [handle.child] } := by
  cases asks : handle.kind.cancelsOnDestroy with
  | false =>
    refine ⟨state.status, fun _ => rfl, ?_⟩
    simp only [CoroState.close, unfinished, asks, Bool.false_eq_true, if_false]
    rfl
  | true =>
    refine ⟨Function.update state.status handle.child
      (state.status handle.child).cancelTask, ?_, ?_⟩
    · intro child
      by_cases same : child = handle.child
      · subst same
        rw [Function.update_self, TaskStatus.isDone_cancelTask]
        rfl
      · rw [Function.update_of_ne same]
        rfl
    · simp only [CoroState.close, unfinished, asks, Bool.false_eq_true, if_false, if_true]
      rfl

theorem Controlled.close (controlled : Controlled kind state) (handle : Handle Child) :
    Controlled kind (state.close handle) := by
  cases finished : handle.finished with
  | true =>
    rw [CoroState.close_of_finished finished]
    exact ⟨controlled.phase, controlled.frame⟩
  | false =>
    rcases state.close_of_unfinished finished with ⟨status, _, closed⟩
    rw [closed]
    exact ⟨controlled.phase, controlled.frame⟩

end Close

theorem Phase.ne_gone_of_isIdle {phase : Phase} (idle : phase.isIdle) : phase ≠ .gone := by
  intro same
  subst same
  cases idle

theorem Controlled.step [DecidableEq Child] (controlled : Controlled kind state)
    (effect : Effect kind state move next) : Controlled kind next := by
  have explained := controlled.frame
  cases effect with
  | children => exact ⟨controlled.phase, controlled.frame⟩
  | closed handle => exact controlled.close handle
  | cancelled idle =>
    refine ⟨?_, fun _ _ => .inl rfl⟩
    revert idle
    cases state.phase <;> intro idle <;> trivial
  | polled idle => exact (explained (Phase.ne_gone_of_isIdle idle)).poll
  | abandoned => exact ⟨trivial, fun present => absurd rfl present⟩
  | destructed _ present => exact ⟨trivial, fun _ gone => absurd gone present⟩
  | cancelReturned phase =>
    have cancelled := controlled.phase
    rw [phase] at cancelled
    exact CoroState.drainAwaited_controlled cancelled
  | repolled ready phase => exact (explained (by rw [phase]; nofun)).repollReturns ready
  | destroyed reason phase => exact controlled.destroyReturns phase
  | swept again goal phase => exact (explained (by rw [phase]; nofun)).sweep again goal
  | awaited cancellable phase =>
    have kept := explained (by rw [phase]; nofun)
    exact CoroState.FrameExplained.drain (by exact kept) .suspended
  | yielded phase => exact ⟨trivial, fun _ => explained (by rw [phase]; nofun)⟩
  | completed => exact CoroState.FrameExplained.finish nofun

/-! ## The dropped children -/

/-- `poll()` has found no child to wait for, and has not resumed the body since. -/
def Phase.isSettled : Phase → Bool
  | .destroying .completed => true
  | .returned outcome => outcome.isFinal
  | _ => false

theorem CoroState.currentCoro_of_isSettled (settled : state.phase.isSettled)
    (handle : Handle Child) : state.currentCoro handle = .outside := by
  have unguarded : state.phase.currentCoro = .outside := by
    cases phase : state.phase with
    | destroying reason =>
      rw [phase] at settled
      cases reason <;> first | rfl | cases settled
    | _ => first | rfl | (rw [phase] at settled; cases settled)
  rw [CoroState.currentCoro, unguarded, ite_self]

structure Accounted (state : CoroState Child) : Prop where
  tracked : Tracked state.dropped state.pending state.isDone
  settled : state.phase.isSettled → Settled state.dropped state.isDone

theorem Accounted.of_unsettled (tracked : Tracked state.dropped state.pending state.isDone)
    (phase : state.phase.isSettled = false) : Accounted state :=
  ⟨tracked, fun settled => by rw [phase] at settled; cases settled⟩

theorem Accounted.of_settled (settled : Settled state.dropped state.isDone) : Accounted state :=
  ⟨settled.tracked, fun _ => settled⟩

section Polls

theorem CoroState.drained_accounted (settled : Settled state.dropped state.isDone)
    (goal : Goal) : Accounted (state.drained kind goal) := by
  unfold CoroState.drained
  split
  · exact .of_settled settled
  · exact .of_settled settled
  · split <;> exact .of_settled settled

section

variable (tracked : Tracked state.dropped state.pending state.isDone)

include tracked

theorem CoroState.drain_accounted (goal : Goal) : Accounted (state.drain kind goal) := by
  unfold CoroState.drain
  split
  · rename_i empty
    rw [empty] at tracked
    exact drained_accounted tracked.settled goal
  · exact .of_unsettled tracked rfl

theorem CoroState.sweep_accounted
    (swept : Bool) (goal : Goal) : Accounted (state.sweep kind swept goal) := by
  have kept := tracked.sweep
  unfold CoroState.sweep
  split
  · rename_i empty
    have none : Tracked state.dropped [] state.isDone := by rw [← empty]; exact kept
    exact drained_accounted (by exact none.settled) goal
  · split
    · exact .of_unsettled kept rfl
    · exact .of_unsettled kept rfl

theorem CoroState.finish_accounted : Accounted (state.finish kind) := by
  unfold CoroState.finish
  split
  · exact .of_unsettled tracked rfl
  · exact drain_accounted tracked .completed

theorem CoroState.drainAwaited_accounted : Accounted (state.drainAwaited kind) := by
  unfold CoroState.drainAwaited
  split
  · split <;> exact .of_unsettled tracked rfl
  · exact .of_unsettled tracked rfl

theorem CoroState.poll_accounted
    (explained : state.FrameExplained kind) : Accounted (state.poll kind) := by
  unfold CoroState.poll
  split
  · split
    · exact .of_unsettled tracked rfl
    · exact drainAwaited_accounted tracked
  · exact drain_accounted tracked .dropped
  · -- a stream that is not cancelled still has its frame
    rename_i running gone
    have coro : kind = .coro := (explained gone).resolve_left (by rw [running]; nofun)
    rw [if_pos coro]
    exact .of_unsettled tracked rfl
  · exact finish_accounted tracked
  · refine .of_unsettled tracked ?_
    cases state.pollCurrent <;> rfl

theorem CoroState.repollReturns_accounted (ready : Bool) :
    Accounted (state.repollReturns kind ready) := by
  unfold CoroState.repollReturns
  split
  · exact .of_unsettled tracked rfl
  · split <;> exact .of_unsettled tracked rfl

end

theorem Accounted.destroyReturns (accounted : Accounted state)
    (phase : state.phase = .destroying reason) : Accounted (state.destroyReturns kind reason) := by
  cases reason with
  | cancelled => exact CoroState.drain_accounted (by exact accounted.tracked) .dropped
  | destructor => exact .of_unsettled accounted.tracked rfl
  | completed =>
    have settled := accounted.settled (by rw [phase]; rfl)
    simp only [CoroState.destroyReturns]
    split <;> exact .of_settled settled

end Polls

section Runs

variable [DecidableEq Child]

/-- The handle would be destroyed while `t_current_coro` points at the coroutine's scope,
or its task is known to be finished or has terminated. -/
def CoroState.Covers (state : CoroState Child) (handle : Handle Child) : Prop :=
  state.currentCoro handle = .own ∨ handle.finished ∨ state.isDone handle.child

instance (handle : Handle Child) : Decidable (state.Covers handle) :=
  inferInstanceAs (Decidable (_ ∨ _))

def CoroState.closing (state : CoroState Child) : Move Child → Option (Handle Child)
  | .close child => state.find child
  | _ => none

def closesCovered (state : CoroState Child) (move : Move Child) : Prop :=
  ∀ handle ∈ state.closing move, state.Covers handle

instance (move : Move Child) : Decidable (closesCovered state move) :=
  inferInstanceAs (Decidable (∀ handle ∈ _, _))

theorem Accounted.close (accounted : Accounted state) (covers : state.Covers handle) :
    Accounted (state.close handle) := by
  cases finished : handle.finished with
  | true =>
    rw [CoroState.close_of_finished finished]
    exact ⟨accounted.tracked, accounted.settled⟩
  | false =>
    rcases state.close_of_unfinished finished with ⟨status, same, closed⟩
    have keeps : ∀ child, state.isDone child → (status child).isDone :=
      fun child done => (same child).trans done
    rw [closed]
    cases current : state.currentCoro handle with
    | own =>
      refine .of_unsettled ((accounted.tracked.register handle.child).later keeps) ?_
      refine Bool.eq_false_iff.mpr fun settled => ?_
      rw [state.currentCoro_of_isSettled settled] at current
      cases current
    | outside =>
      have terminated : state.isDone handle.child := by
        rcases covers with own | known | terminated
        · rw [current] at own
          cases own
        · rw [finished] at known
          cases known
        · exact terminated
      constructor
      · exact (accounted.tracked.add terminated).later keeps
      · intro settled
        exact ((accounted.settled settled).add terminated).later keeps

theorem Accounted.step (accounted : Accounted state) (controlled : Controlled kind state)
    (covered : closesCovered state move) (effect : Effect kind state move next) :
    Accounted next := by
  have tracked := accounted.tracked
  cases effect with
  | children status handles keeps =>
    exact ⟨tracked.later keeps, fun settled => (accounted.settled settled).later keeps⟩
  | closed handle found => exact accounted.close (covered handle found)
  | cancelled => exact ⟨tracked, accounted.settled⟩
  | polled idle =>
    exact CoroState.poll_accounted tracked (controlled.frame (Phase.ne_gone_of_isIdle idle))
  | abandoned | destructed | yielded => exact .of_unsettled tracked rfl
  | cancelReturned => exact CoroState.drainAwaited_accounted (by exact tracked)
  | repolled ready => exact CoroState.repollReturns_accounted tracked ready
  | destroyed reason phase => exact accounted.destroyReturns phase
  | swept again goal => exact CoroState.sweep_accounted tracked again goal
  | awaited => exact CoroState.drain_accounted (by exact tracked) .suspended
  | completed => exact CoroState.finish_accounted (by exact tracked)

theorem accounted_of_reaches (reached : (coroMachine kind parameters).Reaches closesCovered state) :
    Controlled kind state ∧ Accounted state := by
  refine reached.invariant (fun state => Controlled kind state ∧ Accounted state) ?_ ?_
  · intro state move next holds covered step
    have effect := effect step
    exact ⟨holds.1.step effect, holds.2.step holds.1 covered effect⟩
  · exact ⟨⟨trivial, fun _ => nofun⟩, .of_settled nofun⟩

/-- When the last poll delivered the outcome of the coroutine, every child that the
coroutine has dropped has terminated. -/
def ChildrenTerminated (state : CoroState Child) : Prop :=
  ∀ outcome, state.phase = .returned outcome → outcome.isFinal →
    ∀ child ∈ state.dropped, state.isDone child

theorem dropped_children_terminated (kind : Kind) (parameters : List (Parameter Child))
    (reached : (coroMachine kind parameters).Reaches closesCovered state) :
    ChildrenTerminated state := by
  intro outcome returned final
  apply (accounted_of_reaches reached).2.settled
  rw [returned]
  exact final

/-- The body drops a child and ends with a handle to a finished one in a parameter. -/
theorem dropped_children_terminated_drained :
    ∃ state : CoroState Nat,
      (coroMachine .coro [⟨0, .joinHandle true, false⟩]).Reaches closesCovered state ∧
      state.phase = .returned .ready ∧ state.dropped = [1] ∧ ChildrenTerminated state := by
  refine exists_of_exec
    [.poll, .spawn 1 .streamHandle .body false, .terminate 0, .seeFinished 0, .close 1,
      .complete false false, .sweep, .sweep, .terminate 1,
      .poll, .sweep, .close 0, .destroyReturns]
    (by decide +kernel) fun reached => ⟨?_, ?_, dropped_children_terminated _ _ reached⟩
  all_goals decide +kernel

/-- A `Coro` ends with a handle to a running task in a parameter. -/
theorem parameter_child_outlives_coro :
    ¬∀ state : CoroState Nat,
      (coroMachine .coro [⟨0, .joinHandle true, false⟩]).Reaches anyMove state →
        ChildrenTerminated state := by
  intro all
  have reached := (coroMachine .coro [⟨0, .joinHandle true, false⟩]).reaches_exec anyMove
    [.poll, .complete false false, .close 0, .destroyReturns] (by decide +kernel)
  have terminated := all _ reached .ready rfl rfl 0 (by decide +kernel)
  exact absurd terminated (by decide +kernel)

end Runs

end CoroRuntime.Coroutine
