import CoroRuntime.Timers.Waiting
import CoroRuntime.Foundation.Updates

/-! # The current-thread executor

`src/runtime/current_thread_executor.cpp`: a loop of batches of task polls, timers and parks
that one thread runs, and what the other threads do to it. Each critical section is one move.
The parker is a token that an unpark leaves for the current or the next park, and whatever code
the events run; a park may return at any time.
-/

namespace CoroRuntime.Executors.CurrentThread

open Foundation
open Function (update update_self)
open Timers (Queue Timer TimerId Wait Entry Ref)

structure Config where
  eventInterval : Nat
  globalQueueInterval : Nat
  eventPositive : 0 < eventInterval
  globalPositive : 0 < globalQueueInterval

/-- The constructor takes 0 as 1. -/
def Config.ofIntervals (eventInterval globalQueueInterval : Nat) : Config where
  eventInterval := if eventInterval = 0 then 1 else eventInterval
  globalQueueInterval := if globalQueueInterval = 0 then 1 else globalQueueInterval
  eventPositive := by split <;> omega
  globalPositive := by split <;> omega

inductive Phase (Task : Type u) (Waker : Type v)
  | idle
  /-- at the first `done()` of `run_loop` -/
  | checking
  /-- in `run_batch`, after this many polls -/
  | batch (polls : Nat)
  | polling (task : Task) (polls : Nat)
  /-- before a critical section of `fire_expired` -/
  | firing
  | waking (rest : List (Timer Waker)) (more : Bool)
  /-- at the second `done()` -/
  | rechecking
  /-- before the critical section of `park_once` -/
  | parking
  | parked (wait : Wait)
  /-- still in `park`, and wakers run on this thread -/
  | dispatching
  /-- before `end_wait` -/
  | ending
  /-- before `m_parked` is cleared -/
  | clearing
  deriving DecidableEq, Repr

/-- A poll that has called the loop again. -/
structure Frame (Task : Type u) where
  /-- by `poll_ready_tasks`, and not by `run_loop` -/
  once : Bool
  task : Task
  polls : Nat
  deriving DecidableEq, Repr

structure State (Task : Type u) (Waker : Type v) (Thread : Type w) where
  phase : Phase Task Waker := .idle
  /-- whether the current call is one of `poll_ready_tasks` -/
  once : Bool := false
  outer : List (Frame Task) := []
  tick : BitVec 32 := 0
  localQueue : List Task := []
  inject : List Task := []
  parked : Bool := false
  timers : Queue Waker := {}
  /-- an unpark that no park has consumed -/
  token : Bool := false
  /-- threads between their critical section and `unpark` -/
  unparking : Thread → Bool := fun _ => false
  clock : Int := 0
  alive : Waker → Bool := fun _ => true

inductive Action (Task : Type u) (Waker : Type v) (Thread : Type w)
  -- the loop's thread
  | call (once : Bool)
  | done (isDone : Bool)
  | next
  /-- code that runs on the loop's thread makes tasks runnable -/
  | wake (tasks : List Task)
  | setTimer (deadline : Int) (waker : Option Waker)
  /-- the poll is over: whether the task was woken during it, and whether it yielded -/
  | polled (notified yielded : Bool)
  | fire
  | fired
  | park
  /-- the parker's wait is over, and whether it has consumed an unpark -/
  | ready (consumes : Bool)
  | dispatched
  | endWait
  | clear
  -- other threads
  | enqueue (thread : Thread) (task : Task)
  | addTimer (thread : Thread) (deadline : Int) (waker : Option Waker)
  | unpark (thread : Thread)
  | cancelTimer (id : TimerId)
  | recheck
  | advance (now : Int)
  /-- the last strong reference to a waker goes -/
  | drop (waker : Waker)
  deriving DecidableEq, Repr

section Steps

variable {Task : Type u} {Waker : Type v} {Thread : Type w}

namespace State

variable (state : State Task Waker Thread)

def nextTask (config : Config) (state : State Task Waker Thread) :
    Option Task × State Task Waker Thread :=
  let tick := state.tick + 1
  let state : State Task Waker Thread :=
    if state.localQueue.isEmpty ∨ tick.toNat % config.globalQueueInterval = 0 then
      { state with tick, localQueue := state.localQueue ++ state.inject, inject := [] }
    else { state with tick }
  (state.localQueue.head?, { state with localQueue := state.localQueue.tail })

def leave : State Task Waker Thread :=
  match state.outer with
  | [] => { state with phase := .idle }
  | frame :: rest =>
    { state with phase := .polling frame.task frame.polls, once := frame.once, outer := rest }

def batchDone : State Task Waker Thread :=
  if state.once then state.leave else { state with phase := .firing }

def parkOnce : State Task Waker Thread :=
  if state.localQueue.isEmpty ∧ state.inject.isEmpty then
    let result := state.timers.beginWait state.clock none
    { state with
      timers := result.2
      parked := true
      phase := .parked { start := state.clock, bound := result.1 } }
  else { state with phase := .parked { start := state.clock, bound := some 0 } }

def push (tasks : List Task) (state : State Task Waker Thread) : State Task Waker Thread :=
  { state with localQueue := state.localQueue ++ tasks }

end State

variable [DecidableEq Waker] [DecidableEq Thread] (library : HeapLibrary Entry Entry.before)
  (config : Config)

def step (state : State Task Waker Thread) :
    Action Task Waker Thread → Option (State Task Waker Thread)
  | .call once =>
    match state.phase with
    | .idle => some { state with phase := if once then .batch 0 else .checking, once }
    | .polling task polls => some { state with
        phase := if once then .batch 0 else .checking
        once
        outer := ⟨state.once, task, polls⟩ :: state.outer }
    | _ => none
  | .done isDone =>
    match state.phase with
    | .checking => some (if isDone then state.leave else { state with phase := .batch 0 })
    | .rechecking => some (if isDone then state.leave else { state with phase := .parking })
    | _ => none
  | .next =>
    match state.phase with
    | .batch polls =>
      if polls < config.eventInterval then
        match state.nextTask config with
        | (some task, state) => some { state with phase := .polling task polls }
        | (none, state) => some state.batchDone
      else some state.batchDone
    | _ => none
  | .wake tasks =>
    match state.phase with
    | .polling _ _ | .dispatching => some (state.push tasks)
    | .waking (_ :: rest) more => some { state.push tasks with phase := .waking rest more }
    | _ => none
  | .setTimer deadline waker =>
    match state.phase with
    | .polling _ _ =>
      let result := state.timers.insert library deadline waker
      some { state with timers := result.2, token := state.token || result.1.unpark }
    | _ => none
  | .polled notified yielded =>
    match state.phase with
    | .polling task polls =>
      let state := state.push (if notified then [task] else [])
      some (if yielded then state.batchDone else { state with phase := .batch (polls + 1) })
    | _ => none
  | .fire =>
    match state.phase with
    | .firing =>
      let result := state.timers.fireSection library state.alive state.clock false
      some { state with timers := result.2.2, phase := .waking result.1 result.2.1 }
    | _ => none
  | .fired =>
    match state.phase with
    | .waking [] more => some { state with phase := if more then .firing else .rechecking }
    | _ => none
  | .park =>
    match state.phase with
    | .parking => some state.parkOnce
    | _ => none
  | .ready consumes =>
    match state.phase with
    | .parked _ => some { state with
        phase := .dispatching
        token := state.token && !consumes }
    | _ => none
  | .dispatched =>
    match state.phase with
    | .dispatching => some { state with phase := .ending }
    | _ => none
  | .endWait =>
    match state.phase with
    | .ending => some { state with phase := .clearing, timers := state.timers.endWait }
    | _ => none
  | .clear =>
    match state.phase with
    | .clearing => some { state with phase := .checking, parked := false }
    | _ => none
  | .enqueue thread task =>
    if state.unparking thread then none
    else some { state with
      inject := state.inject ++ [task]
      unparking := update state.unparking thread state.parked }
  | .addTimer thread deadline waker =>
    if state.unparking thread then none
    else
      let result := state.timers.insert library deadline waker
      some { state with
        timers := result.2
        unparking := update state.unparking thread result.1.unpark }
  | .unpark thread =>
    if state.unparking thread then some { state with
      token := true
      unparking := update state.unparking thread false }
    else none
  | .cancelTimer id => some { state with timers := state.timers.cancel library id }
  | .recheck => some { state with token := true }
  | .advance now => if state.clock ≤ now then some { state with clock := now } else none
  | .drop waker => some { state with alive := update state.alive waker false }

def machine : Machine (State Task Waker Thread) (Action Task Waker Thread) where
  initial := {}
  step := step library config

end Steps

/-! ## The park -/

variable {Task : Type u} {Waker : Type v} {Thread : Type w} {state next : State Task Waker Thread}

/-- An unpark has been made that no park has consumed, or is about to be made. -/
def State.Pending (state : State Task Waker Thread) : Prop :=
  state.token ∨ ∃ thread, state.unparking thread

/-- The loop sleeps in `park`. A wait of zero does not sleep. -/
def State.Sleeps (state : State Task Waker Thread) (wait : Wait) : Prop :=
  state.phase = .parked wait ∧ wait.bound.all (0 < ·)

structure Inv (state : State Task Waker Thread) : Prop where
  order : IsHeap Entry.before state.timers.heap
  parked : ∀ wait, state.Sleeps wait → state.parked
  queue : ∀ wait, state.Sleeps wait → state.localQueue = []
  inject : ∀ wait, state.Sleeps wait → state.inject ≠ [] → state.Pending
  timers : ∀ wait, state.Sleeps wait → state.Pending ∨ state.timers.Covers wait

structure Awake (state : State Task Waker Thread) : Prop where
  order : IsHeap Entry.before state.timers.heap
  phase : ∀ wait, state.phase ≠ .parked wait

theorem Awake.inv (awake : Awake state) : Inv state where
  order := awake.order
  parked wait sleeps := absurd sleeps.1 (awake.phase wait)
  queue wait sleeps := absurd sleeps.1 (awake.phase wait)
  inject wait sleeps := absurd sleeps.1 (awake.phase wait)
  timers wait sleeps := absurd sleeps.1 (awake.phase wait)

theorem awake_leave (order : IsHeap Entry.before state.timers.heap) : Awake state.leave := by
  rw [State.leave]
  split
  all_goals exact ⟨order, nofun⟩

theorem awake_batchDone (order : IsHeap Entry.before state.timers.heap) :
    Awake state.batchDone := by
  rw [State.batchDone]
  split
  · exact awake_leave order
  · exact ⟨order, nofun⟩

theorem nextTask_timers (config : Config) (state : State Task Waker Thread) :
    (state.nextTask config).2.timers = state.timers := by
  rw [State.nextTask]
  dsimp only
  split <;> rfl

namespace Inv

/-- Both queues are empty when the loop goes to sleep, and nothing is due before it wakes. -/
theorem parkOnce (inv : Inv state) : Inv state.parkOnce := by
  rw [State.parkOnce]
  split
  · rename_i empty
    have heap : (state.timers.beginWait state.clock none).2.heap = state.timers.heap := by
      rw [Queue.beginWait]
      split <;> rfl
    refine ⟨heap ▸ inv.order, fun _ _ => rfl, fun _ _ => List.isEmpty_iff.mp empty.1, ?_, ?_⟩
    · intro _ _ nonempty
      exact absurd (List.isEmpty_iff.mp empty.2) nonempty
    · rintro wait ⟨is, long⟩
      cases is
      exact .inr (.beginWait inv.order state.clock none long false)
  · refine ⟨inv.order, ?_, ?_, ?_, ?_⟩
    all_goals
      rintro wait ⟨is, long⟩
      cases is
      cases long

/-- The loop stays where it is. An unpark that was pending still is, and unless one is, there
is nothing new to be done. -/
theorem stay (inv : Inv state) (order : IsHeap Entry.before next.timers.heap)
    (pending : state.Pending → next.Pending)
    (inject : state.parked → next.inject = state.inject ∨ next.Pending)
    (timers : ∀ wait, state.timers.Covers wait → next.Pending ∨ next.timers.Covers wait)
    (same : (next.phase, next.parked, next.localQueue) =
      (state.phase, state.parked, state.localQueue)) : Inv next := by
  simp only [Prod.mk.injEq] at same
  rcases same with ⟨phase, parked, queue⟩
  refine ⟨order, ?_, ?_, ?_, ?_⟩
  · exact fun wait sleeps => parked ▸ inv.parked wait ⟨phase ▸ sleeps.1, sleeps.2⟩
  · exact fun wait sleeps => queue ▸ inv.queue wait ⟨phase ▸ sleeps.1, sleeps.2⟩
  · intro wait sleeps nonempty
    have slept : state.Sleeps wait := ⟨phase ▸ sleeps.1, sleeps.2⟩
    rcases inject (inv.parked wait slept) with same | now
    · exact pending (inv.inject wait slept (same ▸ nonempty))
    · exact now
  · intro wait sleeps
    rcases inv.timers wait ⟨phase ▸ sleeps.1, sleeps.2⟩ with before | covers
    · exact .inl (pending before)
    · exact timers wait covers

variable [DecidableEq Thread]

/-- A thread that was not about to unpark the loop now is, or is not. -/
theorem pending_update (free : ¬ state.unparking thread) (unparks : Bool)
    (pending : state.Pending) :
    { state with unparking := update state.unparking thread unparks }.Pending := by
  refine pending.imp_right fun present => ?_
  exact exists_update_of_imp (fun unparks : Bool => unparks) present fun now => absurd now free

theorem pending_self (state : State Task Waker Thread) (thread : Thread) :
    { state with unparking := update state.unparking thread true }.Pending :=
  .inr ⟨thread, update_self ..⟩

variable [DecidableEq Waker] (library : HeapLibrary Entry Entry.before) {config : Config}

theorem step (inv : Inv state)
    (stepped : CurrentThread.step library config state action = some next) : Inv next := by
  cases action with simp only [CurrentThread.step] at stepped
  | call once =>
    split at stepped <;> cases stepped
    · cases once
      all_goals exact Awake.inv ⟨inv.order, nofun⟩
    · cases once
      all_goals exact Awake.inv ⟨inv.order, nofun⟩
  | done isDone =>
    split at stepped <;> cases stepped
    · cases isDone
      · exact Awake.inv ⟨inv.order, nofun⟩
      · exact (awake_leave inv.order).inv
    · cases isDone
      · exact Awake.inv ⟨inv.order, nofun⟩
      · exact (awake_leave inv.order).inv
  | next =>
    split at stepped
    · split at stepped
      · have timers := nextTask_timers config state
        split at stepped
        all_goals
          rename_i taken
          rw [taken] at timers
          cases stepped
        · exact Awake.inv ⟨timers ▸ inv.order, nofun⟩
        · exact (awake_batchDone (timers ▸ inv.order)).inv
      · cases stepped
        exact (awake_batchDone inv.order).inv
    · cases stepped
  | wake tasks =>
    split at stepped <;> cases stepped
    · rename_i phase
      exact Awake.inv ⟨inv.order, phase ▸ nofun⟩
    · rename_i phase
      exact Awake.inv ⟨inv.order, phase ▸ nofun⟩
    · exact Awake.inv ⟨inv.order, nofun⟩
  | setTimer deadline waker =>
    split at stepped <;> cases stepped
    rename_i phase
    exact Awake.inv ⟨Queue.isHeap_insert library inv.order deadline waker, phase ▸ nofun⟩
  | polled notified yielded =>
    split at stepped <;> cases stepped
    rename_i task _ _
    have pushed : IsHeap Entry.before
        (state.push (if notified then [task] else [])).timers.heap := inv.order
    cases yielded
    · exact Awake.inv ⟨pushed, nofun⟩
    · exact (awake_batchDone pushed).inv
  | fire =>
    split at stepped <;> cases stepped
    exact Awake.inv ⟨(Queue.shrinks_expire library inv.order).2, nofun⟩
  | fired =>
    split at stepped <;> cases stepped
    rename_i more _
    cases more
    all_goals exact Awake.inv ⟨inv.order, nofun⟩
  | park =>
    split at stepped <;> cases stepped
    exact inv.parkOnce
  | ready _ | dispatched | endWait | clear =>
    split at stepped <;> cases stepped
    exact Awake.inv ⟨inv.order, nofun⟩
  | enqueue thread task =>
    rcases of_unless stepped with ⟨free, rfl⟩
    refine inv.stay inv.order (pending_update free _) ?_ (fun _ covers => .inr covers) rfl
    intro parked
    rw [parked]
    exact .inr (pending_self ..)
  | addTimer thread deadline waker =>
    rcases of_unless stepped with ⟨free, rfl⟩
    refine inv.stay (Queue.isHeap_insert library inv.order deadline waker)
      (pending_update free _) (fun _ => .inl rfl) ?_ rfl
    intro wait covers
    cases unpark : (state.timers.insert library deadline waker).1.unpark with
    | true => exact .inl (pending_self ..)
    | false => exact .inr (covers.insert library unpark)
  | unpark thread =>
    rcases of_guard stepped with ⟨-, rfl⟩
    exact inv.stay inv.order (fun _ => .inl rfl) (fun _ => .inl rfl) (fun _ covers => .inr covers)
      rfl
  | cancelTimer id =>
    cases stepped
    exact inv.stay (Queue.isHeap_cancel library inv.order id) (fun pending => pending)
      (fun _ => .inl rfl)
      (fun _ covers => .inr (covers.shrink (Queue.shrinks_cancel library id))) rfl
  | recheck =>
    cases stepped
    exact inv.stay inv.order (fun _ => .inl rfl) (fun _ => .inl rfl) (fun _ covers => .inr covers)
      rfl
  | advance now =>
    rcases of_guard stepped with ⟨-, rfl⟩
    exact inv.stay inv.order (fun pending => pending) (fun _ => .inl rfl)
      (fun _ covers => .inr covers) rfl
  | drop waker =>
    cases stepped
    exact inv.stay inv.order (fun pending => pending) (fun _ => .inl rfl)
      (fun _ covers => .inr covers) rfl

end Inv

/-! ## The loop never sleeps on work -/

theorem inv_initial : Inv ({} : State Task Waker Thread) :=
  Awake.inv ⟨isHeap_nil, nofun⟩

/-- What holds while the loop sleeps and no unpark is pending: nothing is queued, and no live
timer is due before it wakes. -/
structure NeverSleeps (state : State Task Waker Thread) : Prop where
  queue : ∀ wait, state.Sleeps wait → ¬ state.Pending → state.localQueue = []
  inject : ∀ wait, state.Sleeps wait → ¬ state.Pending → state.inject = []
  timers : ∀ wait, state.Sleeps wait → ¬ state.Pending → ∀ ref timer,
    state.timers.live ref = some timer → wait.EndsBy timer.deadline

theorem Inv.neverSleeps (inv : Inv state) : NeverSleeps state where
  queue wait sleeps _ := inv.queue wait sleeps
  inject wait sleeps quiet := by
    by_contra nonempty
    exact quiet (inv.inject wait sleeps nonempty)
  timers wait sleeps quiet ref timer live := by
    have covers := (inv.timers wait sleeps).resolve_left quiet
    rcases Option.map_eq_some_iff.mp live with ⟨entry, first, rfl⟩
    exact covers.ends entry (List.mem_of_find?_eq_some first)

variable [DecidableEq Thread] [DecidableEq Waker] (library : HeapLibrary Entry Entry.before)
  {config : Config}

theorem neverSleeps_of_reaches (reached : (machine library config).Reaches admits state) :
    NeverSleeps state := by
  have inv : Inv state :=
    reached.invariant _ (fun _ _ _ inv _ stepped => inv.step library stepped) inv_initial
  exact inv.neverSleeps

end CoroRuntime.Executors.CurrentThread
