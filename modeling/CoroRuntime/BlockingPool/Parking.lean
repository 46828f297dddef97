import CoroRuntime.Foundation.Execution
import CoroRuntime.Task.SchedulingState

/-! # Parking of a blocking task

One blocking task whose thread waits for futures with `blocking_wait()`, and any number of
other threads that call `wake()` and `cancel_task()` on it. Each access to an atomic is one
move, and so is each critical section of the park mutex in `unpark()`. In `park()` the mutex
is held over several moves: the predicate is loaded, and then the thread waits, which
releases the mutex and blocks in one move, or goes on.
-/

namespace CoroRuntime.BlockingPool.Parking

open Foundation CoroRuntime.Task

/-- Where the task's thread is. `draining` says which of the two loops of `blocking_wait()`
it is in. -/
inductive Phase
  | queued
  /-- in `run()`, before the callable -/
  | started
  | working
  /-- at the check on entry to `blocking_wait()` -/
  | entering
  | looping
  | polling (draining : Bool)
  | parking (draining : Bool)
  | consuming (draining : Bool)
  | locking (draining : Bool)
  /-- The mutex is held from here to `waiting`, and in `resuming`. -/
  | testing (draining : Bool)
  | sleeping (draining : Bool)
  | waiting (draining : Bool) (notified : Bool)
  | resuming (draining : Bool)
  | returned (draining : Bool)
  /-- about to call the future's `cancel()` -/
  | cancelling
  | finishing
  | finished
  | failed
  deriving DecidableEq, Repr

def Phase.holdsMutex : Phase → Bool
  | .testing _ | .sleeping _ | .resuming _ => true
  | _ => false

/-- Where another thread is in `wake()` or `cancel_task()`. -/
inductive Caller
  | free
  | flagging
  | waking (cancel : Bool) (expected : SchedulingState)
  | unparking
  | aborted
  deriving DecidableEq, Repr

structure State (Thread : Type u) where
  schedulingState : SchedulingState := .notified
  cancelled : Bool := false
  shieldDepth : Nat := 0
  /-- the future of the current `blocking_wait()` has a `cancel()` -/
  cancellable : Bool := false
  phase : Phase := .queued
  caller : Thread → Caller := fun _ => .free
  -- what has happened so far
  /-- a wake has taken effect, and no `park()` has taken it yet -/
  alerted : Bool := false
  /-- the wake of some `cancel_task()` has taken effect -/
  cancelAlerted : Bool := false
  /-- the last thread whose `wake()` left an `unpark()` to do -/
  notifier : Option Thread := none
  /-- polls, other than those of a drain, that began after the task was cancelled -/
  latePolls : Nat := 0

inductive Action (Thread : Type u)
  /-- the task's thread makes the only move it can -/
  | advance
  /-- the callable calls `blocking_wait()` -/
  | wait (cancellable : Bool)
  | raiseShield
  | lowerShield
  | leave
  | pollResult (pending : Bool)
  /-- a wait on the condition variable ends -/
  | wakeUp
  | wake (thread : Thread)
  | cancel (thread : Thread)
  | flag (thread : Thread)
  | turn (thread : Thread)
  | unpark (thread : Thread)
  deriving DecidableEq, Repr

namespace State

variable {Thread : Type u} [DecidableEq Thread]

def cancelPending (state : State Thread) : Bool := state.shieldDepth == 0 && state.cancelled

def poll (draining : Bool) (state : State Thread) : State Thread :=
  { state with
    phase := .polling draining
    latePolls := if !draining ∧ state.cancelPending then state.latePolls + 1
      else state.latePolls }

/-- Where a check for a pending cancellation takes the thread: a future without a `cancel()`
is simply destroyed. -/
def afterCheck (state : State Thread) : Phase :=
  if state.cancelPending then (if state.cancellable then .cancelling else .working)
  else .looping

/-- The store that makes the task `Running`, which takes all wakes so far -/
def take (phase : Phase) (state : State Thread) : State Thread :=
  { state with schedulingState := .running, alerted := false, phase }

/-- The compare-exchange at the start of `park()` -/
def park (draining : Bool) (state : State Thread) : State Thread :=
  let result := compareExchangeStrong state.schedulingState .running .idle
  { state with
    schedulingState := result.cell
    phase := if result.success then .locking draining
      else if result.expected = SchedulingState.runningAndNotified then .consuming draining
      else .failed }

def advance (state : State Thread) : Option (State Thread) :=
  match state.phase with
  | .queued => some (state.take .started)
  | .started => some { state with phase := if state.cancelled then .finishing else .working }
  | .entering => some { state with phase := state.afterCheck }
  | .looping => some (state.poll false)
  | .parking draining => some (state.park draining)
  | .consuming draining => some (state.take (.returned draining))
  | .locking draining => some { state with phase := .testing draining }
  | .testing draining => some { state with
      phase := if state.schedulingState = .notified then .resuming draining
        else .sleeping draining }
  | .sleeping draining => some { state with phase := .waiting draining false }
  | .resuming draining => some (state.take (.returned draining))
  | .returned true => some (state.poll true)
  | .returned false => some { state with phase := state.afterCheck }
  | .cancelling => some (state.poll true)
  | .finishing => some { state with schedulingState := .done, phase := .finished }
  | .working | .polling _ | .waiting _ _ | .finished | .failed => none

def afterTurn (cancel : Bool) : NotifyOutcome → Caller
  | .retry expected => .waking cancel expected
  | .enqueue => .unparking
  | .finished => .free
  | .abort => .aborted

def goto (thread : Thread) (caller : Caller) (state : State Thread) : State Thread :=
  { state with caller := Function.update state.caller thread caller }

/-- One turn of that loop. `wake()` takes effect with the turn that ends it. -/
def turn (thread : Thread) (cancel : Bool) (expected : SchedulingState) (state : State Thread) :
    State Thread :=
  let result := TaskBase.wakeTurn state.schedulingState expected
  let ends := match result.2 with
    | .retry _ => false
    | _ => true
  { state with
    schedulingState := result.1
    alerted := state.alerted || ends
    cancelAlerted := state.cancelAlerted || (ends && cancel)
    notifier :=
      if result.2 = NotifyOutcome.enqueue then some thread else state.notifier }.goto thread
      (afterTurn cancel result.2)

def unpark (thread : Thread) (state : State Thread) : State Thread :=
  { state with
    phase := match state.phase with
      | .waiting draining _ => .waiting draining true
      | phase => phase }.goto thread .free

end State

variable {Thread : Type u} [DecidableEq Thread]

def step (state : State Thread) : Action Thread → Option (State Thread)
  | .advance => state.advance
  | .wait cancellable =>
    if state.phase = .working then some { state with phase := .entering, cancellable }
    else none
  | .raiseShield =>
    match state.phase with
    | .working | .polling _ => some { state with shieldDepth := state.shieldDepth + 1 }
    | _ => none
  | .lowerShield =>
    match state.phase with
    | .working | .polling _ =>
      if 0 < state.shieldDepth then some { state with shieldDepth := state.shieldDepth - 1 }
      else none
    | _ => none
  | .leave => if state.phase = .working then some { state with phase := .finishing } else none
  | .pollResult pending =>
    match state.phase with
    | .polling draining => some { state with
        phase := if pending then .parking draining else .working }
    | _ => none
  | .wakeUp =>
    match state.phase with
    | .waiting draining _ => some { state with phase := .testing draining }
    | _ => none
  | .wake thread =>
    if state.caller thread = .free then some (state.goto thread (.waking false .idle)) else none
  | .cancel thread =>
    if state.caller thread = .free then some (state.goto thread .flagging) else none
  | .flag thread =>
    if state.caller thread = .flagging then
      some ({ state with cancelled := true }.goto thread (.waking true .idle))
    else none
  | .turn thread =>
    match state.caller thread with
    | .waking cancel expected => some (state.turn thread cancel expected)
    | _ => none
  | .unpark thread =>
    if state.caller thread = .unparking ∧ ¬ state.phase.holdsMutex then
      some (state.unpark thread)
    else none

def machine : Machine (State Thread) (Action Thread) where
  initial := {}
  step := step

/-! ## What the state of the task can be -/

def Phase.Allows : Phase → SchedulingState → Prop
  | .queued, cell | .resuming _, cell => cell = .notified
  | .consuming _, cell => cell = .runningAndNotified
  | .locking _, cell | .testing _, cell | .sleeping _, cell | .waiting _ _, cell =>
    cell = .idle ∨ cell = .notified
  | .finished, cell => cell = .done
  | .failed, _ => False
  | _, cell => cell = .running ∨ cell = .runningAndNotified

theorem Phase.Allows.notify {phase : Phase} (allows : phase.Allows .idle) :
    phase.Allows .notified := by
  cases phase <;> simp_all [Phase.Allows]

theorem Phase.Allows.flag {phase : Phase} (allows : phase.Allows .running) :
    phase.Allows .runningAndNotified := by
  cases phase <;> simp_all [Phase.Allows]

/-- The thread has decided to sleep, and has not been notified. -/
def Phase.sleeps : Phase → Bool
  | .sleeping _ | .waiting _ false => true
  | _ => false

structure Inv (state : State Thread) : Prop where
  cell : state.phase.Allows state.schedulingState
  alert : state.alerted → state.schedulingState = .notified ∨
    state.schedulingState = .runningAndNotified ∨ state.schedulingState = .done
  notified : state.phase.sleeps → state.schedulingState = .notified → state.notifier ≠ none
  unpark : ∀ {thread}, state.phase.sleeps → state.schedulingState = .notified →
    state.notifier = some thread → state.caller thread = .unparking
  cancelled : ∀ {thread expected}, state.caller thread = .waking true expected → state.cancelled
  cancelAlerted : state.cancelAlerted → state.cancelled
  late : state.latePolls ≤ 1 ∧ (0 < state.latePolls → state.cancelled) ∧
    (state.phase = .looping → state.shieldDepth = 0 → state.latePolls = 0)
  expects : ∀ {thread cancel expected}, state.caller thread = .waking cancel expected →
    expected = .idle ∨ expected = .running
  unaborted : ∀ {thread}, state.caller thread ≠ .aborted

namespace Inv

variable {state next : State Thread}

variable (inv : Inv state)

include inv

omit [DecidableEq Thread] in
/-- The task's thread makes a move: it leaves the callers alone, and sleeps on a wake only
where it has slept before. -/
theorem move (same : (next.caller, next.cancelled, next.cancelAlerted, next.notifier) =
      (state.caller, state.cancelled, state.cancelAlerted, state.notifier))
    (cell : next.phase.Allows next.schedulingState)
    (alert : next.alerted → next.schedulingState = .notified ∨
      next.schedulingState = .runningAndNotified ∨ next.schedulingState = .done)
    (sleeps : next.phase.sleeps → next.schedulingState = .notified →
      state.phase.sleeps ∧ state.schedulingState = .notified)
    (late : next.latePolls ≤ 1 ∧ (0 < next.latePolls → next.cancelled) ∧
      (next.phase = .looping → next.shieldDepth = 0 → next.latePolls = 0)) : Inv next := by
  simp only [Prod.mk.injEq] at same
  rcases same with ⟨caller, flag, flagAlerted, notifier⟩
  constructor
  case cell => exact cell
  case alert => exact alert
  case notified =>
    intro asleep known
    have before := sleeps asleep known
    exact notifier ▸ inv.notified before.1 before.2
  case unpark =>
    intro thread asleep known notifies
    have before := sleeps asleep known
    exact caller ▸ inv.unpark before.1 before.2 (notifier ▸ notifies)
  case cancelled => exact fun waking => flag ▸ inv.cancelled (caller ▸ waking)
  case cancelAlerted => exact fun alerted => flag ▸ inv.cancelAlerted (flagAlerted ▸ alerted)
  case late => exact late
  case expects => exact fun waking => inv.expects (caller ▸ waking)
  case unaborted => exact fun aborted => inv.unaborted (caller ▸ aborted)

/-- Another thread makes a move. A wake that it finds the thread asleep for is its own to
announce, or was there already. -/
theorem called (moved : next.caller = Function.update state.caller thread caller)
    (same : (next.latePolls, next.shieldDepth) = (state.latePolls, state.shieldDepth))
    (looping : next.phase = .looping → state.phase = .looping)
    (cell : next.phase.Allows next.schedulingState)
    (alert : next.alerted → next.schedulingState = .notified ∨
      next.schedulingState = .runningAndNotified ∨ next.schedulingState = .done)
    (sleeps : next.phase.sleeps → next.schedulingState = .notified →
      next.notifier = some thread ∧ caller = .unparking ∨
      state.phase.sleeps ∧ state.schedulingState = .notified ∧ next.notifier = state.notifier ∧
        state.caller thread ≠ .unparking) (flag : state.cancelled → next.cancelled)
    (flagged : next.cancelAlerted → next.cancelled)
    (waking : ∀ cancel expected, caller = .waking cancel expected →
      (cancel → next.cancelled) ∧ (expected = .idle ∨ expected = .running))
    (unaborted : caller ≠ .aborted) : Inv next := by
  simp only [Prod.mk.injEq] at same
  rcases same with ⟨late, shield⟩
  have elsewhere : ∀ other, other ≠ thread → next.caller other = state.caller other := by
    intro other different
    rw [moved, Function.update_of_ne different]
  have here : next.caller thread = caller := by rw [moved, Function.update_self]
  constructor
  case cell => exact cell
  case alert => exact alert
  case notified =>
    intro asleep known
    rcases sleeps asleep known with ⟨mine, -⟩ | ⟨before, was, notifier, -⟩
    · rw [mine]
      nofun
    · exact notifier ▸ inv.notified before was
  case unpark =>
    intro other asleep known notifies
    rcases sleeps asleep known with ⟨mine, unparking⟩ | ⟨before, was, notifier, busy⟩
    · cases Option.some.inj (mine.symm.trans notifies)
      exact here.trans unparking
    · have unparking := inv.unpark before was (notifier ▸ notifies)
      by_cases different : other = thread
      · exact absurd (different ▸ unparking) busy
      · exact (elsewhere other different).trans unparking
  case cancelled =>
    intro other expected woken
    by_cases different : other = thread
    · exact (waking _ _ (here.symm.trans (different ▸ woken))).1 rfl
    · exact flag (inv.cancelled ((elsewhere other different).symm.trans woken))
  case cancelAlerted => exact flagged
  case late =>
    rw [late, shield]
    exact ⟨inv.late.1, fun owed => flag (inv.late.2.1 owed),
      fun loops => inv.late.2.2 (looping loops)⟩
  case expects =>
    intro other cancel expected woken
    by_cases different : other = thread
    · exact (waking _ _ (here.symm.trans (different ▸ woken))).2
    · exact inv.expects ((elsewhere other different).symm.trans woken)
  case unaborted =>
    intro other aborted
    by_cases different : other = thread
    · exact unaborted (here.symm.trans (different ▸ aborted))
    · exact inv.unaborted ((elsewhere other different).symm.trans aborted)

omit inv in
theorem afterReload {cell : SchedulingState} {phase : Phase}
    (allows : phase.Allows cell) :
    (cell = .idle ∨ cell = .running) ∧ NotifyOutcome.ofReloaded cell = .retry cell ∨
    (cell = .notified ∨ cell = .runningAndNotified ∨ cell = .done) ∧
      NotifyOutcome.ofReloaded cell = .finished := by
  cases phase
  all_goals simp only [Phase.Allows] at allows
  all_goals grind -ring -linarith [NotifyOutcome.ofReloaded]

theorem turn (waking : state.caller thread = .waking cancel expected) :
    Inv (state.turn thread cancel expected) := by
  have known := inv.expects waking
  have flag : cancel → state.cancelled := fun cancels => inv.cancelled (cancels ▸ waking)
  have flagged : ∀ ends : Bool, state.cancelAlerted || (ends && cancel) → state.cancelled := by
    intro ends alerted
    rcases Bool.or_eq_true_iff.mp alerted with before | now
    · exact inv.cancelAlerted before
    · exact flag (Bool.and_eq_true_iff.mp now).2
  rcases notifyTurn_cases state.schedulingState expected with
    ⟨cellIs, -, result⟩ | ⟨cellIs, -, result⟩ | ⟨same, result⟩
  · simp only [State.turn, TaskBase.wakeTurn, result, State.goto, State.afterTurn, if_true]
    refine inv.called rfl rfl id ?_ (fun _ => .inl rfl) (fun _ _ => .inl ⟨rfl, rfl⟩) id
      (flagged true) nofun nofun
    exact Phase.Allows.notify (cellIs ▸ inv.cell)
  · simp only [State.turn, TaskBase.wakeTurn, result, State.goto, State.afterTurn]
    refine inv.called rfl rfl id ?_ (fun _ => .inr (.inl rfl)) nofun id (flagged true) nofun nofun
    exact Phase.Allows.flag (cellIs ▸ inv.cell)
  · replace result : (notifyTurn state.schedulingState expected).2 =
        .ofReloaded state.schedulingState := by
      rcases result with reloaded | ⟨-, notIdle, notRunning⟩
      · exact reloaded
      · exact absurd known (not_or.mpr ⟨notIdle, notRunning⟩)
    have asleep : state.phase.sleeps → state.schedulingState = .notified →
        state.phase.sleeps ∧ state.schedulingState = .notified ∧
          state.notifier = state.notifier ∧ state.caller thread ≠ .unparking :=
      fun sleeps notified => ⟨sleeps, notified, rfl, by rw [waking]; nofun⟩
    simp only [State.turn, TaskBase.wakeTurn, same, result, State.goto]
    rcases afterReload inv.cell with ⟨retried, outcome⟩ | ⟨alert, outcome⟩
    · simp only [outcome, State.afterTurn, Bool.or_false, Bool.false_and, reduceCtorEq, if_false]
      refine inv.called rfl rfl id inv.cell inv.alert (fun sleeps notified =>
        .inr (asleep sleeps notified)) id inv.cancelAlerted ?_ nofun
      rintro _ _ ⟨⟩
      exact ⟨flag, retried⟩
    · simp only [outcome, State.afterTurn, reduceCtorEq, if_false]
      exact inv.called rfl rfl id inv.cell (fun _ => alert) (fun sleeps notified =>
        .inr (asleep sleeps notified)) id (flagged true) nofun nofun

omit [DecidableEq Thread] in
/-- The poll after a check that found no cancellation may come late, and no other does. -/
theorem poll {draining : Bool} (here : draining ∨ state.phase = .looping)
    (cell : (Phase.polling draining).Allows state.schedulingState) :
    Inv (state.poll draining) := by
  refine inv.move rfl cell inv.alert nofun ?_
  rcases inv.late with ⟨late, cancelled, looping⟩
  simp only [State.poll, State.cancelPending]
  refine ⟨?_, ?_, nofun⟩
  all_goals grind -ring -linarith

omit [DecidableEq Thread] in
theorem afterCheck (cell : ∀ phase : Phase, phase = .cancelling ∨
    phase = .working ∨ phase = .looping → phase.Allows state.schedulingState) :
    Inv { state with phase := state.afterCheck } := by
  have late := inv.late
  refine inv.move rfl (cell _ ?_) inv.alert ?_ ⟨late.1, late.2.1, ?_⟩
  all_goals simp only [State.afterCheck, State.cancelPending]
  all_goals grind -ring -linarith [Phase.sleeps]

omit [DecidableEq Thread] in
theorem advance (stepped : state.advance = some next) : Inv next := by
  have cell := inv.cell
  have alert := inv.alert
  have late := inv.late
  simp only [State.advance] at stepped
  split at stepped
  all_goals rename_i phase
  all_goals cases stepped
  all_goals rw [phase] at cell
  case h_3 | h_12 =>
    refine inv.afterCheck fun _ after => ?_
    rcases after with rfl | rfl | rfl <;> exact cell
  case h_4 => exact inv.poll (.inr phase) cell
  case h_11 | h_13 => exact inv.poll (.inl rfl) cell
  all_goals refine inv.move rfl ?_ ?_ ?_ ⟨late.1, late.2.1, ?_⟩
  all_goals simp only [State.park, State.take, compareExchangeStrong]
  all_goals grind -ring -linarith [Phase.Allows, Phase.sleeps]

theorem of_unpark (free : ¬ state.phase.holdsMutex) : Inv (state.unpark thread) := by
  have cell := inv.cell
  refine inv.called rfl rfl ?_ ?_ inv.alert ?_ id inv.cancelAlerted nofun nofun
  all_goals simp only [State.unpark, State.goto]
  all_goals cases phase : state.phase
  all_goals rw [phase] at cell free
  all_goals grind -ring -linarith [Phase.Allows, Phase.sleeps, Phase.holdsMutex]

theorem call {caller : Caller} {flag : Bool} (before : state.caller thread ≠ .unparking)
    (flagged : caller = .flagging ∨ ∃ cancel, caller = .waking cancel .idle ∧ (cancel → flag))
    (kept : state.cancelled → flag) :
    Inv ({ state with cancelled := flag }.goto thread caller) := by
  refine inv.called rfl rfl id inv.cell inv.alert (fun sleeps notified =>
    .inr ⟨sleeps, notified, rfl, before⟩) kept (fun alerted => kept (inv.cancelAlerted alerted))
    ?_ ?_
  · rintro cancel expected rfl
    rcases flagged with impossible | ⟨_, is, flags⟩
    · cases impossible
    · cases is
      exact ⟨flags, .inl rfl⟩
  · rintro rfl
    rcases flagged with impossible | ⟨_, is, -⟩
    · cases impossible
    · cases is

theorem step (stepped : step state action = some next) : Inv next := by
  cases action with
  | advance => exact inv.advance stepped
  | turn thread =>
    simp only [Parking.step] at stepped
    split at stepped <;> cases stepped
    rename_i cancel expected waking
    exact inv.turn waking
  | unpark thread =>
    rcases of_guard stepped with ⟨⟨-, free⟩, rfl⟩
    exact inv.of_unpark free
  | wake thread =>
    rcases of_guard stepped with ⟨free, rfl⟩
    exact inv.call (by rw [free]; nofun) (.inr ⟨false, rfl, nofun⟩) id
  | cancel thread =>
    rcases of_guard stepped with ⟨free, rfl⟩
    exact inv.call (by rw [free]; nofun) (.inl rfl) id
  | flag thread =>
    rcases of_guard stepped with ⟨flagging, rfl⟩
    exact inv.call (by rw [flagging]; nofun) (.inr ⟨true, rfl, fun _ => rfl⟩) fun _ => rfl
  | wait _ | raiseShield | lowerShield | leave | pollResult _ | wakeUp =>
    have cell := inv.cell
    have late := inv.late
    simp only [Parking.step] at stepped
    repeat' split at stepped
    all_goals cases stepped
    all_goals refine inv.move rfl ?_ inv.alert ?_ ⟨late.1, late.2.1, ?_⟩
    all_goals grind -ring -linarith [Phase.Allows, Phase.sleeps]

end Inv

theorem inv_of_reaches {state : State Thread} (reached : machine.Reaches anyMove state) :
    Inv state := by
  have initially : Inv ({} : State Thread) :=
    ⟨rfl, nofun, nofun, nofun, nofun, nofun, ⟨Nat.zero_le _, nofun, nofun⟩, nofun, nofun⟩
  exact reached.invariant Inv (fun _ _ _ inv _ stepped => inv.step stepped) initially

/-! ## A wake ends the wait -/

def Phase.parks (draining : Bool) (phase : Phase) : Prop :=
  phase = .parking draining ∨ phase = .consuming draining ∨ phase = .locking draining ∨
  phase = .testing draining ∨ phase = .sleeping draining ∨ phase = .resuming draining ∨
  ∃ notified, phase = .waiting draining notified

/-- How many more moves of the thread `park()` takes at most once a wake has come -/
def Phase.toReturn : Phase → Nat
  | .sleeping _ => 4
  | .waiting _ _ | .locking _ => 3
  | .parking _ | .testing _ => 2
  | .consuming _ | .resuming _ => 1
  | _ => 0

theorem Phase.parks.toReturn_pos {phase : Phase} (parks : phase.parks draining) :
    0 < phase.toReturn := by
  rcases parks with rfl | rfl | rfl | rfl | rfl | rfl | ⟨_, rfl⟩ <;> simp [Phase.toReturn]

def Action.ofParker : Action Thread → Bool
  | .advance | .wakeUp => true
  | _ => false

section

variable {state next : State Thread}

/-- Nothing but the end of `park()` takes a wake away from a task that has begun. -/
theorem alerted_step (begun : state.phase ≠ .queued) (alerted : state.alerted)
    (stepped : step state action = some next) :
    (∃ draining, next.phase = .returned draining) ∨ (next.phase ≠ .queued ∧ next.alerted) := by
  cases action
  case advance =>
    simp only [step, State.advance] at stepped
    split at stepped
    all_goals cases stepped
    all_goals grind -ring -linarith [State.poll, State.park, State.take, State.afterCheck]
  all_goals simp only [step] at stepped
  all_goals repeat' split at stepped
  all_goals cases stepped
  all_goals grind -ring -linarith [State.turn, State.goto, State.unpark]

/-- Inside `park()`, a thread with a wake to take comes closer to the end with every move. -/
theorem Inv.parks_step (inv : Inv state) (parks : state.phase.parks draining)
    (alerted : state.alerted) (stepped : Parking.step state action = some next) :
    next.phase = .returned draining ∨ ((next.phase.parks draining ∧ next.alerted) ∧
      next.phase.toReturn + action.ofParker.toNat ≤ state.phase.toReturn) := by
  have cell := inv.cell
  have alert := inv.alert alerted
  cases action
  case advance =>
    simp only [Parking.step, State.advance] at stepped
    split at stepped
    all_goals rename_i phase
    all_goals cases stepped
    all_goals rw [phase] at cell parks
    all_goals simp only [State.poll, State.park, State.take, compareExchangeStrong, phase]
    all_goals grind -ring -linarith [Phase.Allows, Phase.parks, Phase.toReturn, Action.ofParker]
  case unpark thread =>
    rcases of_guard stepped with ⟨-, rfl⟩
    rcases parks with phase | phase | phase | phase | phase | phase | ⟨_, phase⟩
    all_goals grind -ring -linarith [State.unpark, State.goto, Phase.parks, Phase.toReturn,
      Action.ofParker]
  all_goals simp only [Parking.step] at stepped
  all_goals repeat' split at stepped
  all_goals cases stepped
  all_goals grind -ring -linarith [State.turn, State.goto, Phase.parks, Phase.toReturn,
    Action.ofParker]

structure LosesNoWake (state : State Thread) : Prop where
  /-- A wake waits for the end of a `park()` -/
  kept {actions later} : state.phase ≠ .queued → state.alerted →
    machine.Path anyMove state actions later →
    Machine.Path.Visits machine anyMove (fun state => ∃ draining,
      state.phase = .returned draining) state actions later ∨ later.alerted
  /-- which comes after a few moves of the thread. -/
  returns {draining actions later} : state.phase.parks draining → state.alerted →
    machine.Path anyMove state actions later →
    state.phase.toReturn ≤ actions.countP Action.ofParker →
    Machine.Path.Visits machine anyMove (·.phase = .returned draining) state actions later
  /-- It has a move, unless it waits for the condition variable. -/
  moves {draining} : state.phase.parks draining → (step state .advance).isSome ∨
    ∃ notified, state.phase = .waiting draining notified
  blocked {draining} : state.phase = .waiting draining false →
    state.schedulingState = .notified →
    ∃ thread, state.notifier = some thread ∧ (step state (.unpark thread)).isSome
  asserted : state.phase ≠ .failed
  cancelled : state.cancelAlerted → state.shieldDepth = 0 → state.cancelPending
  late : state.latePolls ≤ 1

/-- A wake or a cancel is never lost on a task that parks, in any interleaving with the
threads that call them. -/
theorem park_loses_no_wake (reached : machine.Reaches anyMove state) :
    LosesNoWake state := by
  have inv := inv_of_reaches reached
  constructor
  case kept =>
    intro actions later begun alerted path
    have kept := path.visits_or_rank (fun state => ∃ draining, state.phase = .returned draining)
      (fun state => state.phase ≠ .queued ∧ state.alerted) (fun _ => 0) (fun _ => false)
      (fun _ _ _ held _ stepped => (alerted_step held.1 held.2 stepped).imp_right (⟨·, by simp⟩))
      ⟨begun, alerted⟩
    exact kept.imp_right (·.1.2)
  case returns =>
    intro draining actions later parks alerted path enough
    rcases path.visits_or_rank (·.phase = .returned draining)
        (fun state => Inv state ∧ state.phase.parks draining ∧ state.alerted)
        (·.phase.toReturn) Action.ofParker
        (fun _ _ _ held _ stepped => (held.1.parks_step held.2.1 held.2.2 stepped).imp_right
          fun lower => ⟨⟨held.1.step stepped, lower.1⟩, lower.2⟩)
        ⟨inv, parks, alerted⟩ with returned | ⟨⟨-, still, -⟩, bound⟩
    · exact returned
    · have more := still.toReturn_pos
      omega
  case moves =>
    intro draining parks
    rcases parks with phase | phase | phase | phase | phase | phase | ⟨notified, phase⟩
    case inr.inr.inr.inr.inr.inr => exact .inr ⟨notified, phase⟩
    all_goals exact .inl (by simp [step, State.advance, phase])
  case blocked =>
    intro draining waiting notified
    rcases Option.ne_none_iff_exists'.mp (inv.notified (by rw [waiting]; rfl) notified) with
      ⟨thread, notifier⟩
    have unparking := inv.unpark (by rw [waiting]; rfl) notified notifier
    exact ⟨thread, notifier, by simp [step, unparking, waiting, Phase.holdsMutex]⟩
  case asserted =>
    intro failed
    have cell := inv.cell
    rw [failed] at cell
    exact cell
  case cancelled =>
    intro alerted unshielded
    simp [State.cancelPending, unshielded, inv.cancelAlerted alerted]
  case late => exact inv.late.1

end

/-- A cancel takes effect between the test of the predicate and the wait. -/
theorem park_loses_no_wake_cancelled :
    ∃ state : State Nat, machine.Reaches anyMove state ∧
      state.phase = .waiting false false ∧ state.schedulingState = .notified ∧
      state.cancelAlerted ∧ LosesNoWake state := by
  refine exists_of_exec
    [.advance, .advance, .wait true, .advance, .advance, .pollResult true, .advance, .advance,
      .advance, .cancel 0, .flag 0, .turn 0, .advance]
    (by decide +kernel) fun reached => ⟨?_, ?_, ?_, park_loses_no_wake reached⟩
  all_goals decide +kernel

end CoroRuntime.BlockingPool.Parking
