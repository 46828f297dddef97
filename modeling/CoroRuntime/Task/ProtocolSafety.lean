import CoroRuntime.Task.Protocol

/-! # Safety of the scheduling protocol

The cell's value fixes where the task is: queued or held by one thread when it
is `Notified`, inside one worker's poll when it is `Running` or
`RunningAndNotified`, and nowhere otherwise.
-/

namespace CoroRuntime.Task

open Foundation
open Function (update update_of_ne)

variable {Thread : Type}

def Placement (cell : SchedulingState) (queued : Nat) (phase : Thread → Phase) : Prop :=
  match cell with
  | .idle | .done => queued = 0 ∧ Nobody Phase.holding phase ∧ Nobody Phase.runs phase
  | .notified => Nobody Phase.runs phase ∧
      ((queued = 1 ∧ Nobody Phase.holding phase) ∨
        (queued = 0 ∧ Sole Phase.holding phase))
  | .running | .runningAndNotified =>
    queued = 0 ∧ Nobody Phase.holding phase ∧ Sole Phase.runs phase
  | .unknown _ => False

/-- What a thread in a given phase knows about the rest of the state. -/
def Phase.Consistent (cell : SchedulingState) (owningExecutor published : Bool) :
    Phase → Prop
  | .free => True
  | .scheduleStore => published = false ∧ owningExecutor = true ∧ cell = .idle
  | .waking expected | .cancelling expected =>
    published = true ∧ (expected = .idle ∨ expected = .running)
  | .renotifying expected =>
    published = true ∧ expected = .runningAndNotified ∧ cell = .runningAndNotified
  | .aborted | .faulted => False
  | _ => published = true

structure Safe (state : TaskState Thread) : Prop where
  placement : Placement state.schedulingState state.queued state.phase
  consistent : ∀ thread, (state.phase thread).Consistent state.schedulingState
    state.owningExecutor state.published
  oneScheduler : ∀ left right, state.phase left = .scheduleStore →
    state.phase right = .scheduleStore → left = right
  publication : state.published = true ∧ state.owningExecutor = true ∨
    state.published = false ∧ state.schedulingState = .idle

theorem newTask_safe : Safe (newTask Thread) where
  placement := ⟨rfl, fun _ => rfl, fun _ => rfl⟩
  consistent := fun _ => trivial
  oneScheduler := fun _ _ scheduling => nomatch scheduling
  publication := .inr ⟨rfl, rfl⟩

namespace Placement

variable {cell : SchedulingState} {queued : Nat} {phase : Thread → Phase}
  {thread : Thread} {target : Phase}

variable (placement : Placement cell queued phase)

include placement

/-- A thread that changes neither region leaves the placement alone. -/
theorem move [DecidableEq Thread] (sameHolding : target.holding = (phase thread).holding)
    (sameRuns : target.runs = (phase thread).runs) :
    Placement cell queued (update phase thread target) := by
  have holdingStays : Nobody Phase.holding phase →
      Nobody Phase.holding (update phase thread target) :=
    fun nobody => nobody.stays (sameHolding.trans (nobody thread))
  have runsStays : Nobody Phase.runs phase →
      Nobody Phase.runs (update phase thread target) :=
    fun nobody => nobody.stays (sameRuns.trans (nobody thread))
  cases cell with
  | idle | done => exact ⟨placement.1, holdingStays placement.2.1, runsStays placement.2.2⟩
  | running | runningAndNotified =>
    exact ⟨placement.1, holdingStays placement.2.1, placement.2.2.stays sameRuns⟩
  | notified =>
    refine ⟨runsStays placement.1, ?_⟩
    rcases placement.2 with ⟨one, nobody⟩ | ⟨none, sole⟩
    · exact .inl ⟨one, holdingStays nobody⟩
    · exact .inr ⟨none, sole.stays sameHolding⟩
  | unknown => exact placement.elim

theorem held (holds : (phase thread).holding = true) :
    cell = .notified ∧ queued = 0 ∧ Sole Phase.holding phase ∧ Nobody Phase.runs phase := by
  have occupied : ¬Nobody Phase.holding phase := by
    intro nobody
    rw [nobody thread] at holds
    exact Bool.noConfusion holds
  cases cell with
  | notified =>
    rcases placement.2 with ⟨_, nobody⟩ | ⟨none, sole⟩
    · exact (occupied nobody).elim
    · exact ⟨rfl, none, sole, placement.1⟩
  | unknown => exact placement.elim
  | _ => exact (occupied placement.2.1).elim

/-- Only a queued task can be dequeued, and it is `Notified`. -/
theorem waiting (positive : 0 < queued) :
    cell = .notified ∧ queued = 1 ∧ Nobody Phase.holding phase ∧ Nobody Phase.runs phase := by
  cases cell with
  | notified =>
    rcases placement.2 with ⟨one, nobody⟩ | ⟨none, _⟩
    · exact ⟨rfl, one, nobody, placement.1⟩
    · omega
  | unknown => exact placement.elim
  | _ => exact absurd placement.1 (by omega)

theorem polled (runs : (phase thread).runs = true) :
    (cell = .running ∨ cell = .runningAndNotified) ∧ queued = 0 ∧
      Nobody Phase.holding phase ∧ Sole Phase.runs phase := by
  have occupied : ¬Nobody Phase.runs phase := by
    intro nobody
    rw [nobody thread] at runs
    exact Bool.noConfusion runs
  cases cell with
  | running => exact ⟨.inl rfl, placement⟩
  | runningAndNotified => exact ⟨.inr rfl, placement⟩
  | notified => exact (occupied placement.1).elim
  | unknown => exact placement.elim
  | _ => exact (occupied placement.2.2).elim

end Placement

namespace Safe

variable {state : TaskState Thread} {thread : Thread} {target : Phase}

variable (safe : Safe state)

include safe

theorem owned (published : state.published = true) : state.owningExecutor = true := by
  rcases safe.publication with ⟨_, owned⟩ | ⟨unpublished, _⟩
  · exact owned
  · exact Bool.noConfusion (published.symm.trans unpublished)

/-- Threads past the publication know only that it happened. -/
theorem published_of_phase
    (past : state.phase thread ≠ .free ∧ state.phase thread ≠ .scheduleStore) :
    state.published = true := by
  have known := safe.consistent thread
  cases reached : state.phase thread <;> rw [reached] at known past <;>
    simp_all [Phase.Consistent]

/-- Once published, a phase's knowledge depends on the cell only through the
worker that is about to renotify. -/
theorem consistent_of_published (published : state.published = true) (other : Thread)
    (kept : (state.phase other).runs = true → cell = state.schedulingState) :
    (state.phase other).Consistent cell state.owningExecutor state.published := by
  have known := safe.consistent other
  cases reached : state.phase other <;> rw [reached] at known kept <;>
    simp_all [Phase.Consistent, Phase.runs]

/-- A worker in the region of polls is alone there, so the others' knowledge
does not depend on the cell. -/
theorem others_consistent (runs : (state.phase thread).runs = true)
    (published : state.published = true) (cell : SchedulingState) :
    ∀ other, other ≠ thread →
      (state.phase other).Consistent cell state.owningExecutor state.published := by
  rcases safe.placement.polled runs with ⟨_, _, _, sole⟩
  intro other different
  exact safe.consistent_of_published published other fun otherRuns =>
    (different (sole.eq otherRuns runs)).elim

variable [DecidableEq Thread]

omit safe in
/-- The bookkeeping shared by all moves: one thread goes to `target`, the cell,
the flags and the queues become what `next` says, and the other threads keep
what they know. -/
theorem goto {next : TaskState Thread} (safe : Safe state)
    (placement : Placement next.schedulingState next.queued
      (update state.phase thread target))
    (phases : next.phase = state.phase)
    (arrives : target.Consistent next.schedulingState next.owningExecutor next.published)
    (others : ∀ other, other ≠ thread →
      (state.phase other).Consistent next.schedulingState next.owningExecutor
        next.published)
    (notScheduling : target = .scheduleStore → state.owningExecutor = false)
    (publication : next.published = true ∧ next.owningExecutor = true ∨
      next.published = false ∧ next.schedulingState = .idle) :
    Safe (next.goto thread target) where
  placement := by
    simpa only [TaskState.goto, phases] using placement
  consistent := by
    intro other
    simp only [TaskState.goto, phases]
    by_cases same : other = thread
    · subst same
      simpa using arrives
    · simpa [same] using others other same
  oneScheduler := by
    have unscheduled : target = .scheduleStore → ∀ other,
        state.phase other ≠ .scheduleStore := by
      intro scheduling other otherScheduling
      have known := safe.consistent other
      rw [otherScheduling] at known
      have unset := notScheduling scheduling
      rw [known.2.1] at unset
      exact Bool.noConfusion unset
    intro left right leftScheduling rightScheduling
    simp only [TaskState.goto, phases] at leftScheduling rightScheduling
    by_cases leftSame : left = thread <;> by_cases rightSame : right = thread
    · exact leftSame.trans rightSame.symm
    · rw [update_of_ne rightSame] at rightScheduling
      subst leftSame
      exact (unscheduled (by simpa using leftScheduling) right rightScheduling).elim
    · rw [update_of_ne leftSame] at leftScheduling
      subst rightSame
      exact (unscheduled (by simpa using rightScheduling) left leftScheduling).elim
    · rw [update_of_ne leftSame] at leftScheduling
      rw [update_of_ne rightSame] at rightScheduling
      exact safe.oneScheduler left right leftScheduling rightScheduling
  publication := publication

theorem advance (sameHolding : target.holding = (state.phase thread).holding)
    (sameRuns : target.runs = (state.phase thread).runs)
    (arrives : target.Consistent state.schedulingState state.owningExecutor
      state.published)
    (notScheduling : target ≠ .scheduleStore) : Safe (state.goto thread target) :=
  safe.goto (safe.placement.move sameHolding sameRuns) rfl arrives
    (fun other _ => safe.consistent other) (fun equal => absurd equal notScheduling)
    safe.publication

theorem enqueue (holds : (state.phase thread).holding = true) : Safe (state.enqueue thread) := by
  rcases safe.placement.held holds with ⟨notified, none, sole, idle⟩
  have notRunning : (state.phase thread).runs = false := idle thread
  have published : state.published = true := by
    refine safe.published_of_phase (?_ : state.phase thread ≠ _ ∧ state.phase thread ≠ _)
    constructor <;> intro equal <;> rw [equal] at holds <;> exact Bool.noConfusion holds
  have executor := safe.owned published
  unfold TaskState.enqueue
  rw [if_pos executor]
  refine safe.goto ?_ rfl trivial (fun other _ => safe.consistent other) nofun
    (.inl ⟨published, executor⟩)
  simp only [notified, none]
  exact ⟨idle.stays rfl, .inl ⟨rfl, sole.leaves holds rfl⟩⟩

theorem notify (inLoop : state.phase thread = .waking expected ∨
      state.phase thread = .cancelling expected)
    (again_eq : again = .waking ∨ again = .cancelling) :
    Safe (state.notify thread again (notifyTurn state.schedulingState expected)) := by
  have outside : (state.phase thread).holding = false ∧ (state.phase thread).runs = false := by
    rcases inLoop with equal | equal <;> rw [equal] <;> exact ⟨rfl, rfl⟩
  have known : state.published = true ∧ (expected = .idle ∨ expected = .running) := by
    have consistent := safe.consistent thread
    rcases inLoop with equal | equal <;> rw [equal] at consistent <;> exact consistent
  have loops : ∀ value, (again value).holding = false ∧ (again value).runs = false ∧
      again value ≠ .scheduleStore := by
    intro value
    rcases again_eq with equal | equal <;> rw [equal] <;> exact ⟨rfl, rfl, nofun⟩
  have publication : state.published = true ∧ state.owningExecutor = true :=
    ⟨known.1, safe.owned known.1⟩
  have placement := safe.placement
  rcases notifyTurn_cases state.schedulingState expected with
    ⟨cell, _, turn⟩ | ⟨cell, _, turn⟩ | ⟨kept, outcome⟩
  · rw [turn]
    rw [cell] at placement
    refine safe.goto ⟨placement.2.2.stays rfl, .inr ⟨placement.1, placement.2.1.enters rfl⟩⟩
      rfl known.1 ?_ nofun (.inl publication)
    intro other _
    exact safe.consistent_of_published known.1 other fun runs => by
      rw [placement.2.2 other] at runs
      exact Bool.noConfusion runs
  · rw [turn]
    rw [cell] at placement
    refine safe.goto ⟨placement.1, placement.2.1.stays rfl,
      placement.2.2.stays outside.2.symm⟩ rfl trivial ?_ nofun (.inl publication)
    intro other _
    have consistent := safe.consistent other
    cases reached : state.phase other <;> rw [reached] at consistent <;>
      simp_all [Phase.Consistent]
  · have unchanged : state.notify thread again (notifyTurn state.schedulingState expected) =
        state.goto thread (TaskState.afterTurn again
          (notifyTurn state.schedulingState expected).2) := by
      simp only [TaskState.notify, kept, TaskState.goto]
    have reloaded : (notifyTurn state.schedulingState expected).2 =
        .ofReloaded state.schedulingState := by
      rcases outcome with equal | ⟨_, notIdle, notRunning⟩
      · exact equal
      · rcases known.2 with equal | equal
        · exact absurd equal notIdle
        · exact absurd equal notRunning
    rw [unchanged, reloaded]
    cases cell : state.schedulingState with
    | unknown =>
      rw [cell] at placement
      exact placement.elim
    | idle =>
      refine safe.advance ((loops _).1.trans outside.1.symm)
        ((loops _).2.1.trans outside.2.symm) ?_ (loops _).2.2
      rcases again_eq with equal | equal <;> rw [equal] <;> exact ⟨known.1, .inl rfl⟩
    | running =>
      refine safe.advance ((loops _).1.trans outside.1.symm)
        ((loops _).2.1.trans outside.2.symm) ?_ (loops _).2.2
      rcases again_eq with equal | equal <;> rw [equal] <;> exact ⟨known.1, .inr rfl⟩
    | _ => exact safe.advance outside.1.symm outside.2.symm trivial nofun

theorem startPoll (dequeued : state.phase thread = .dequeued) : Safe (state.startPoll thread) := by
  have holds : (state.phase thread).holding = true := by rw [dequeued]; rfl
  rcases safe.placement.held holds with ⟨notified, none, sole, idle⟩
  have published : state.published = true := by
    have consistent := safe.consistent thread
    rwa [dequeued] at consistent
  simp only [TaskState.startPoll, compareExchangeStrong, notified, if_true]
  refine safe.goto ⟨none, sole.leaves holds rfl, idle.enters rfl⟩ rfl published ?_ (by simp)
    (.inl ⟨published, safe.owned published⟩)
  intro other _
  exact safe.consistent_of_published published other fun runs => by
    rw [idle other] at runs
    exact Bool.noConfusion runs

theorem park (returned : state.phase thread = .pollReturned false) : Safe (state.park thread) := by
  have runs : (state.phase thread).runs = true := by rw [returned]; rfl
  have published : state.published = true := by
    have consistent := safe.consistent thread
    rwa [returned] at consistent
  rcases safe.placement.polled runs with ⟨cell | cell, none, unheld, sole⟩
  · simp only [TaskState.park, compareExchangeStrong, cell, if_true]
    exact safe.goto ⟨none, unheld.stays rfl, sole.leaves runs rfl⟩ rfl trivial
      (safe.others_consistent runs published _) (by simp)
      (.inl ⟨published, safe.owned published⟩)
  · simp only [TaskState.park, compareExchangeStrong, cell, reduceCtorEq, if_false, if_true,
      Bool.false_eq_true]
    exact safe.goto ⟨none, unheld.stays rfl, sole.stays runs.symm⟩ rfl
      ⟨published, rfl, rfl⟩ (safe.others_consistent runs published _) (by simp)
      (.inl ⟨published, safe.owned published⟩)

theorem renotify (renotifying : state.phase thread = .renotifying expected) :
    Safe (state.renotify thread expected) := by
  have runs : (state.phase thread).runs = true := by rw [renotifying]; rfl
  have consistent := safe.consistent thread
  rw [renotifying] at consistent
  rcases consistent with ⟨published, expected_eq, cell⟩
  rcases safe.placement.polled runs with ⟨_, none, unheld, sole⟩
  simp only [TaskState.renotify, compareExchangeStrong, cell, expected_eq, if_true]
  exact safe.goto ⟨sole.leaves runs rfl, .inr ⟨none, unheld.enters rfl⟩⟩ rfl published
    (safe.others_consistent runs published _) (by simp)
      (.inl ⟨published, safe.owned published⟩)

theorem storeDone (returned : state.phase thread = .pollReturned true) :
    Safe ({ state with schedulingState := .done }.goto thread .removing) := by
  have runs : (state.phase thread).runs = true := by rw [returned]; rfl
  have published : state.published = true := by
    have consistent := safe.consistent thread
    rwa [returned] at consistent
  rcases safe.placement.polled runs with ⟨_, none, unheld, sole⟩
  exact safe.goto ⟨none, unheld.stays rfl, sole.leaves runs rfl⟩ rfl published
    (safe.others_consistent runs published _) nofun
      (.inl ⟨published, safe.owned published⟩)

theorem schedule (free : state.phase thread = .free)
    (unset : state.owningExecutor = false) :
    Safe ({ state with owningExecutor := true }.goto thread .scheduleStore) := by
  rcases safe.publication with ⟨_, set⟩ | ⟨unpublished, idle⟩
  · exact Bool.noConfusion (set.symm.trans unset)
  refine safe.goto (safe.placement.move ?_ ?_) rfl ⟨unpublished, rfl, idle⟩ ?_ (fun _ => unset)
    (.inr ⟨unpublished, idle⟩)
  · rw [free]; rfl
  · rw [free]; rfl
  · intro other _
    have consistent := safe.consistent other
    cases reached : state.phase other <;> rw [reached] at consistent <;>
      simp_all [Phase.Consistent]

theorem storeNotified (storing : state.phase thread = .scheduleStore) :
    Safe ({ state with schedulingState := .notified, published := true }.goto thread
      .scheduleInsert) := by
  have consistent := safe.consistent thread
  rw [storing] at consistent
  rcases consistent with ⟨unpublished, executor, idle⟩
  have placement := safe.placement
  rw [idle] at placement
  refine safe.goto ⟨placement.2.2.stays rfl, .inr ⟨placement.1, placement.2.1.enters rfl⟩⟩
    rfl rfl ?_ nofun (.inl ⟨rfl, executor⟩)
  -- Nobody but the storing thread is past `free` before the publication.
  intro other different
  have known := safe.consistent other
  cases reached : state.phase other with
  | scheduleStore => exact (different (safe.oneScheduler _ _ reached storing)).elim
  | _ =>
    rw [reached] at known
    simp_all [Phase.Consistent]

theorem dequeue (positive : 0 < state.queued) :
    Safe ({ state with queued := state.queued - 1 }.goto thread .dequeued) := by
  rcases safe.placement.waiting positive with ⟨notified, one, unheld, idle⟩
  have published : state.published = true := by
    rcases safe.publication with ⟨published, _⟩ | ⟨_, cell⟩
    · exact published
    · rw [notified] at cell
      exact nomatch cell
  refine safe.goto ?_ rfl published (fun other _ => safe.consistent other) nofun
    safe.publication
  simp only [notified, one]
  exact ⟨idle.stays rfl, .inr ⟨rfl, unheld.enters rfl⟩⟩

end Safe

theorem step_safe [DecidableEq Thread] {move : Move Thread} (safe : Safe state)
    (admitted : afterPublication state move) (stepped : state.step move = some next) :
    Safe next := by
  cases move with simp only [TaskState.step] at stepped
  | schedule thread =>
    rcases of_guard stepped with ⟨⟨free, unset⟩, rfl⟩
    exact safe.schedule free unset
  | storeNotified thread =>
    rcases of_guard stepped with ⟨storing, rfl⟩
    exact safe.storeNotified storing
  | insertOwned thread =>
    rcases of_guard stepped with ⟨inserting, rfl⟩
    have consistent := safe.consistent thread
    rw [inserting] at consistent
    refine safe.goto (safe.placement.move ?_ ?_) rfl consistent
      (fun other _ => safe.consistent other) nofun safe.publication
    · rw [inserting]; rfl
    · rw [inserting]; rfl
  | enqueue thread =>
    rcases of_guard stepped with ⟨enqueuing, rfl⟩
    exact safe.enqueue (by rw [enqueuing]; rfl)
  | collect thread =>
    rcases of_guard stepped with ⟨⟨enqueuing, _⟩, rfl⟩
    have consistent := safe.consistent thread
    rw [enqueuing] at consistent
    exact safe.advance (by rw [enqueuing]; rfl) (by rw [enqueuing]; rfl) consistent nofun
  | flush thread =>
    rcases of_guard stepped with ⟨batched, rfl⟩
    exact safe.enqueue (by rw [batched]; rfl)
  | wake thread =>
    rcases of_guard stepped with ⟨free, rfl⟩
    exact safe.advance (by rw [free]; rfl) (by rw [free]; rfl) ⟨admitted, .inl rfl⟩ nofun
  | wakeTurn thread =>
    split at stepped <;> cases stepped
    rename_i expected waking
    exact safe.notify (.inl waking) (.inl rfl)
  | cancel thread =>
    rcases of_guard stepped with ⟨free, rfl⟩
    refine safe.goto (safe.placement.move ?_ ?_) rfl admitted
      (fun other _ => safe.consistent other) nofun safe.publication
    · rw [free]; rfl
    · rw [free]; rfl
  | lockTask thread =>
    rcases of_guard stepped with ⟨locking, rfl⟩
    have consistent := safe.consistent thread
    rw [locking] at consistent
    exact safe.advance (by rw [locking]; rfl) (by rw [locking]; rfl)
      ⟨consistent, .inl rfl⟩ nofun
  | lockExpired thread =>
    rcases of_guard stepped with ⟨⟨locking, _⟩, rfl⟩
    exact safe.advance (by rw [locking]; rfl) (by rw [locking]; rfl) trivial nofun
  | cancelTurn thread =>
    split at stepped <;> cases stepped
    rename_i expected cancelling
    exact safe.notify (.inr cancelling) (.inr rfl)
  | dequeue thread =>
    rcases of_guard stepped with ⟨⟨_, positive⟩, rfl⟩
    exact safe.dequeue positive
  | requeue thread =>
    rcases of_guard stepped with ⟨dequeued, rfl⟩
    exact safe.enqueue (by rw [dequeued]; rfl)
  | startPoll thread =>
    rcases of_guard stepped with ⟨dequeued, rfl⟩
    exact safe.startPoll dequeued
  | pollReturn thread done =>
    rcases of_guard stepped with ⟨polling, rfl⟩
    have consistent := safe.consistent thread
    rw [polling] at consistent
    exact safe.advance (by rw [polling]; rfl) (by rw [polling]; rfl) consistent nofun
  | storeDone thread =>
    rcases of_guard stepped with ⟨returned, rfl⟩
    exact safe.storeDone returned
  | removeOwned thread =>
    rcases of_guard stepped with ⟨removing, rfl⟩
    refine safe.goto (safe.placement.move ?_ ?_) rfl trivial
      (fun other _ => safe.consistent other) nofun safe.publication
    · rw [removing]; rfl
    · rw [removing]; rfl
  | park thread =>
    rcases of_guard stepped with ⟨returned, rfl⟩
    exact safe.park returned
  | renotify thread =>
    split at stepped <;> cases stepped
    rename_i expected renotifying
    exact safe.renotify renotifying

theorem reaches_safe [DecidableEq Thread]
    (reached : (taskMachine Thread).Reaches afterPublication state) : Safe state :=
  reached.invariant Safe
    (fun _ _ _ safe admitted stepped => step_safe safe admitted stepped) newTask_safe

/-! ## Notifications are not lost -/

/-- The move is the access to the cell at which a `wake()` or a `cancel()` takes
effect: the call does not go round its loop again. -/
def TaskState.Notifies (state : TaskState Thread) : Move Thread → Prop
  | .wakeTurn thread => ∃ expected, state.phase thread = .waking expected ∧
      ∀ again, (TaskBase.wakeTurn state.schedulingState expected).2 ≠ .retry again
  | .cancelTurn thread => ∃ expected, state.phase thread = .cancelling expected ∧
      ∀ again, (JoinHandle.cancelTurn state.schedulingState expected).2 ≠ .retry again
  | _ => False

def Move.StartsPoll : Move Thread → Prop
  | .startPoll _ => True
  | _ => False

theorem notifyTurn_alerted (entered : expected = .idle ∨ expected = .running)
    (known : ∀ code, cell ≠ .unknown code)
    (leaves : ∀ again, (notifyTurn cell expected).2 ≠ .retry again) :
    (notifyTurn cell expected).1.Alerted := by
  rcases notifyTurn_cases cell expected with ⟨_, _, turn⟩ | ⟨_, _, turn⟩ | ⟨kept, outcome⟩
  · rw [turn]
    trivial
  · rw [turn]
    trivial
  · rw [kept]
    have reloaded : (notifyTurn cell expected).2 = .ofReloaded cell := by
      rcases outcome with equal | ⟨_, notIdle, notRunning⟩
      · exact equal
      · exact (entered.elim notIdle notRunning).elim
    cases cell with
    | idle | running => exact (leaves _ reloaded).elim
    | unknown code => exact (known code rfl).elim
    | _ => trivial

theorem alerted_notifyTurn (alerted : cell.Alerted) : (notifyTurn cell expected).1.Alerted := by
  rcases notifyTurn_cases cell expected with ⟨_, _, turn⟩ | ⟨_, _, turn⟩ | ⟨kept, _⟩
  · rw [turn]
    trivial
  · rw [turn]
    trivial
  · rwa [kept]

section

variable [DecidableEq Thread]

theorem Safe.notifies_alerted {move : Move Thread} (safe : Safe state)
    (notifies : state.Notifies move) (stepped : state.step move = some next) :
    next.schedulingState.Alerted := by
  have known : ∀ code, state.schedulingState ≠ .unknown code := by
    intro code cell
    have placement := safe.placement
    rw [cell] at placement
    exact placement
  cases move with
  | wakeTurn thread =>
    rcases notifies with ⟨expected, waking, leaves⟩
    have consistent := safe.consistent thread
    rw [waking] at consistent
    simp only [TaskState.step, waking, Option.some.injEq] at stepped
    subst stepped
    exact notifyTurn_alerted consistent.2 known leaves
  | cancelTurn thread =>
    rcases notifies with ⟨expected, cancelling, leaves⟩
    have consistent := safe.consistent thread
    rw [cancelling] at consistent
    simp only [TaskState.step, cancelling, Option.some.injEq] at stepped
    subst stepped
    exact notifyTurn_alerted consistent.2 known leaves
  | _ => exact notifies.elim

/-- Until the next poll starts, an alerted task stays alerted, whatever else
happens to it. -/
theorem alerted_step {state : TaskState Thread} (alerted : state.schedulingState.Alerted)
    (noPoll : ¬move.StartsPoll) (stepped : state.step move = some next) :
    next.schedulingState.Alerted := by
  cases move with simp only [TaskState.step] at stepped
  | startPoll thread => exact (noPoll trivial).elim
  | wakeTurn thread | cancelTurn thread =>
    split at stepped <;> cases stepped
    exact alerted_notifyTurn alerted
  | park thread =>
    rcases of_guard stepped with ⟨_, rfl⟩
    have notRunning : state.schedulingState ≠ .running := by
      intro running
      rw [running] at alerted
      exact alerted
    simpa [TaskState.park, TaskState.goto, compareExchangeStrong, notRunning] using alerted
  | renotify thread =>
    split at stepped <;> cases stepped
    rename_i expected _
    by_cases same : state.schedulingState = expected
    · simp [TaskState.renotify, TaskState.goto, compareExchangeStrong, same,
        SchedulingState.Alerted]
    · simpa [TaskState.renotify, TaskState.goto, compareExchangeStrong, same]
        using alerted
  | enqueue thread | flush thread | requeue thread =>
    rcases of_guard stepped with ⟨_, rfl⟩
    unfold TaskState.enqueue
    split <;> exact alerted
  | storeNotified thread | storeDone thread =>
    rcases of_guard stepped with ⟨_, rfl⟩
    trivial
  | _ =>
    rcases of_guard stepped with ⟨_, rfl⟩
    exact alerted

/-! ## The protocol's guarantees -/

structure ProtocolHolds (state : TaskState Thread) : Prop where
  queuedOnce : state.queued ≤ 1
  placed : state.schedulingState = .notified → state.Placed
  unplaced : state.schedulingState ≠ .notified →
    state.queued = 0 ∧ Nobody Phase.holding state.phase
  onePoll : ∀ left right, state.phase left = .polling → state.phase right = .polling →
    left = right
  noAbort : ∀ thread, state.phase thread ≠ .aborted ∧ state.phase thread ≠ .faulted
  keepsNotification : ∀ move next, state.Notifies move → state.step move = some next →
    ∀ moves later, (taskMachine Thread).Path (fun _ move => ¬move.StartsPoll) next moves later →
      later.schedulingState.Alerted

theorem Safe.protocolHolds {state : TaskState Thread} (safe : Safe state) :
    ProtocolHolds state := by
  have placement := safe.placement
  refine ⟨?_, ?_, ?_, ?_, ?_, ?_⟩
  · cases cell : state.schedulingState <;> rw [cell] at placement <;>
      simp only [Placement] at placement <;> omega
  · intro notified
    rw [notified] at placement
    exact placement.2
  · intro notNotified
    cases cell : state.schedulingState <;> rw [cell] at placement <;>
      simp_all [Placement]
  · intro left right leftPolling rightPolling
    have leftRuns : (state.phase left).runs = true := by rw [leftPolling]; rfl
    have rightRuns : (state.phase right).runs = true := by rw [rightPolling]; rfl
    exact (placement.polled leftRuns).2.2.2.eq leftRuns rightRuns
  · intro thread
    have consistent := safe.consistent thread
    constructor <;> intro equal <;> rw [equal] at consistent <;> exact consistent
  · intro move next notifies stepped moves later path
    exact path.invariant (fun state => state.schedulingState.Alerted)
      (fun _ _ _ alerted noPoll step => alerted_step alerted noPoll step)
      (safe.notifies_alerted notifies stepped)

end

theorem task_protocol [DecidableEq Thread] (state : TaskState Thread)
    (reached : (taskMachine Thread).Reaches afterPublication state) :
    ProtocolHolds state :=
  (reaches_safe reached).protocolHolds

/-- A run in which a wake arrives during the task's first poll, and the poll
then ends pending. -/
theorem task_protocol_rescheduled :
    ∃ state, (taskMachine Nat).Reaches afterPublication state ∧
      state.queued = 1 ∧ ProtocolHolds state :=
  exists_of_exec
    [.schedule 0, .storeNotified 0, .insertOwned 0, .enqueue 0, .dequeue 1, .startPoll 1,
      .wake 2, .wakeTurn 2, .wakeTurn 2, .pollReturn 1 false, .park 1, .renotify 1, .enqueue 1]
    rfl fun reached => ⟨rfl, task_protocol _ reached⟩

/-- A wake that comes before `schedule()` has written the cell, as the
`cancel_all()` of a `JoinSet` can send one to a task another thread is still
spawning into the set, queues the task a second time, and the worker that
dequeues it after that aborts. -/
theorem early_wake_breaks_protocol :
    ¬∀ state, (taskMachine Nat).Reaches anyMove state → ProtocolHolds state := by
  intro holds
  have reached := (taskMachine Nat).reaches_exec anyMove
    [.schedule 0, .wake 1, .wakeTurn 1, .enqueue 1, .storeNotified 0, .insertOwned 0,
      .enqueue 0, .dequeue 2, .startPoll 2, .dequeue 3, .startPoll 3] (by decide +kernel)
  exact ((holds _ reached).noAbort 3).1 rfl

end CoroRuntime.Task
