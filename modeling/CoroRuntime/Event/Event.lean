import CoroRuntime.Foundation.Execution
import Mathlib.Data.Fintype.Basic

/-! # The event

`include/coro/sync/event.h`: a flag, the future that suspended last and its waker. Each
critical section is one move, and so is each call of a waker after it. A future is moved
only before its first poll, when nothing points to it.
-/

namespace CoroRuntime.Event

open Foundation

inductive WaitStatus (Waker : Type u)
  | created
  /-- Pending, and how often the waker of that poll has been taken out to be called -/
  | pending (waker : Waker) (wakes : Nat)
  | ready
  deriving DecidableEq, Repr

structure WaitFuture (Waker : Type u) where
  event : Bool := true
  status : WaitStatus Waker := .created
  deriving DecidableEq, Repr

structure EventState (Wait : Type u) (Waker : Type v) where
  alive : Bool := true
  isSet : Bool := false
  waitFuture : Option Wait := none
  waker : Option Waker := none
  futures : Wait → Option (WaitFuture Waker) := fun _ => none
  /-- wakers that critical sections have taken out and that are still to be called -/
  waking : List Waker := []
  /-- History: the future that a `set()` has woken, until one suspends or is dropped. -/
  signalled : Option Wait := none
  /-- History: the destructor has called a waker that is not there. -/
  emptyWake : Bool := false
  /-- History: a future has used the event after its destruction. -/
  touched : Bool := false

inductive Move (Wait : Type u) (Waker : Type v)
  | wait (future : Wait)
  | poll (future : Wait) (waker : Waker)
  | drop (future : Wait)
  | set
  | clear
  | destroy
  | wake (waker : Waker)
  deriving DecidableEq, Repr

def WaitStatus.taken : WaitStatus Waker → WaitStatus Waker
  | .pending waker wakes => .pending waker (wakes + 1)
  | status => status

namespace EventState

variable {Wait : Type u} {Waker : Type v} [DecidableEq Wait]
variable (state : EventState Wait Waker)

def takeWaker : EventState Wait Waker :=
  match state.waker with
  | none => state
  | some waker =>
    { state with
      waker := none
      waking := state.waking ++ [waker]
      futures := fun id => (state.futures id).map fun future =>
        if state.waitFuture = some id then { future with status := future.status.taken }
        else future }

def poll (id : Wait) (future : WaitFuture Waker)
    (waker : Waker) : EventState Wait Waker :=
  let resolve : EventState Wait Waker :=
    { state with
      futures := Function.update state.futures id (some { future with status := .ready }) }
  if future.event = false then resolve
  else if state.alive = false then { state with touched := true }
  else if state.isSet then resolve
  else { state with
    waitFuture := some id
    waker := some waker
    signalled := none
    futures := Function.update state.futures id
      (some { future with status := .pending waker 0 }) }

def drop (id : Wait) (future : WaitFuture Waker) : EventState Wait Waker :=
  let dropped := { state with futures := Function.update state.futures id none }
  if future.event = false then dropped
  else if state.alive = false then { dropped with touched := true }
  else { dropped with waitFuture := none, waker := none, signalled := none }

def set : EventState Wait Waker :=
  { state.takeWaker with
    isSet := true
    signalled := if state.waker.isSome then state.waitFuture else state.signalled }

def destroy : EventState Wait Waker :=
  match state.waitFuture with
  | none => { state with alive := false, waker := none }
  | some id =>
    let taken := state.takeWaker
    { taken with
      alive := false
      waitFuture := none
      emptyWake := state.emptyWake || state.waker.isNone
      futures := fun other => (taken.futures other).map fun future =>
        if other = id then { future with event := false } else future }

variable [DecidableEq Waker]

def step (state : EventState Wait Waker) : Move Wait Waker → Option (EventState Wait Waker)
  | .wait id =>
    if state.alive ∧ (state.futures id).isNone then
      some { state with futures := Function.update state.futures id (some {}) }
    else none
  | .poll id waker =>
    match state.futures id with
    | some future =>
      -- not again after it has resolved
      if future.status = .ready then none else some (state.poll id future waker)
    | none => none
  | .drop id => (state.futures id).map (state.drop id)
  | .set => if state.alive then some state.set else none
  | .clear => if state.alive then some { state with isSet := false } else none
  | .destroy => if state.alive then some state.destroy else none
  | .wake waker =>
    if waker ∈ state.waking then some { state with waking := state.waking.erase waker }
    else none

end EventState

def eventMachine (Wait : Type u) (Waker : Type v) [DecidableEq Wait] [DecidableEq Waker] :
    Machine (EventState Wait Waker) (Move Wait Waker) where
  initial := {}
  step := EventState.step

/-! ## Disciplines -/

variable {Wait : Type u} {Waker : Type v}

def EventState.suspended (state : EventState Wait Waker) (id : Wait) : Bool :=
  match state.futures id with
  | some ⟨_, .pending _ _⟩ => true
  | _ => false

/-- At most one future is suspended at a time. -/
def singleWaiter (state : EventState Wait Waker) : Move Wait Waker → Prop
  | .poll id _ => ∀ other, state.suspended other → other = id
  | _ => True

/-- Also, no other future is dropped while one is suspended. -/
def undisturbed (state : EventState Wait Waker) : Move Wait Waker → Prop
  | .poll id _ => ∀ other, state.suspended other → other = id
  | .drop id => ∀ other, state.suspended other → other = id
  | _ => True

/-- Also, the event is not destroyed between a `set()` that woke a future and the next time
that one suspends or that the future is dropped. -/
def settled (state : EventState Wait Waker) : Move Wait Waker → Prop
  | .destroy => state.signalled = none
  | move => undisturbed state move

section Decidable

variable [DecidableEq Wait] [Fintype Wait] (state : EventState Wait Waker)

instance : DecidablePred (singleWaiter state)
  | .poll id _ => inferInstanceAs (Decidable (∀ other, state.suspended other → other = id))
  | .wait _ | .drop _ | .set | .clear | .destroy | .wake _ => instDecidableTrue

instance : DecidablePred (undisturbed state)
  | .poll id _ | .drop id =>
    inferInstanceAs (Decidable (∀ other, state.suspended other → other = id))
  | .wait _ | .set | .clear | .destroy | .wake _ => instDecidableTrue

instance [DecidableEq Waker] : DecidablePred (settled state)
  | .destroy => inferInstanceAs (Decidable (state.signalled = none))
  | .poll id _ | .drop id =>
    inferInstanceAs (Decidable (∀ other, state.suspended other → other = id))
  | .wait _ | .set | .clear | .wake _ => instDecidableTrue

end Decidable

/-! ## The registration -/

variable {state next : EventState Wait Waker}

/-- While the event lives, a suspended future is the registered one, and its waker is there
until a `set()` takes it. -/
structure Registered (state : EventState Wait Waker) : Prop where
  suspended : ∀ id future waker wakes, state.alive → state.futures id = some future →
    future.status = .pending waker wakes → future.event ∧ state.waitFuture = some id ∧
      (wakes = 0 ∧ state.waker = some waker ∨ wakes = 1 ∧ state.waker = none)
  armed : ∀ waker, state.alive → state.waker = some waker → state.waitFuture.isSome
  owner : ∀ waker id, state.alive → state.waker = some waker → state.waitFuture = some id →
    (state.futures id).map (·.status) = some (.pending waker 0)
  isSet : state.isSet → state.waker = none
  signalled : state.alive → state.waitFuture.isSome → state.waker = none → state.signalled.isSome

theorem EventState.suspended_of_pending {id : Wait} {waker : Waker}
    (found : state.futures id = some future) (pending : future.status = .pending waker wakes) :
    state.suspended id := by
  rcases future with ⟨event, status⟩
  rw [EventState.suspended, found, show status = _ from pending]

variable [DecidableEq Wait]

theorem EventState.takeWaker_waker (state : EventState Wait Waker) :
    state.takeWaker.waker = none := by
  rw [takeWaker]
  split
  · assumption
  · rfl

theorem EventState.destroy_alive (state : EventState Wait Waker) : state.destroy.alive = false := by
  rw [destroy]
  split <;> rfl

theorem EventState.destroy_waker (state : EventState Wait Waker) : state.destroy.waker = none := by
  rw [destroy]
  split
  · rfl
  · exact state.takeWaker_waker

namespace Registered

omit [DecidableEq Wait] in
theorem gone (dead : state.alive = false) (isSet : state.isSet → state.waker = none) :
    Registered state where
  suspended _ _ _ _ alive := by cases dead.symm.trans alive
  armed _ alive := by cases dead.symm.trans alive
  owner _ _ alive := by cases dead.symm.trans alive
  isSet := isSet
  signalled alive := by cases dead.symm.trans alive

omit [DecidableEq Wait] in
theorem nobody (bare : state.waker = none)
    (idle : ∀ id future waker wakes, state.futures id = some future →
      future.status ≠ .pending waker wakes)
    (signalled : state.alive → state.waitFuture.isSome → state.signalled.isSome) :
    Registered state where
  suspended id future waker wakes _ found is := absurd is (idle id future waker wakes found)
  armed _ _ there := by cases bare.symm.trans there
  owner _ _ _ there := by cases bare.symm.trans there
  isSet _ := bare
  signalled alive there _ := signalled alive there

theorem idle_update {id : Wait} {new : Option (WaitFuture Waker)}
    (alone : ∀ other, state.suspended other → other = id)
    (idle : ∀ future waker wakes, new = some future → future.status ≠ .pending waker wakes)
    (other : Wait) (future : WaitFuture Waker) (waker : Waker) (wakes : Nat)
    (found : Function.update state.futures id new other = some future) :
    future.status ≠ .pending waker wakes := by
  by_cases same : other = id
  · subst same
    rw [Function.update_self] at found
    exact idle future waker wakes found
  · rw [Function.update_of_ne same] at found
    exact fun is => same (alone other (EventState.suspended_of_pending found is))

omit [DecidableEq Wait] in
/-- A future that has lost the event is not suspended, so nobody has left a waker. -/
theorem bare (registered : Registered state) (alive : state.alive) {id : Wait}
    (alone : ∀ other, state.suspended other → other = id)
    (found : state.futures id = some future) (unset : future.event = false) :
    state.waker = none := by
  by_contra there
  rcases Option.ne_none_iff_exists'.mp there with ⟨waker, there⟩
  rcases Option.isSome_iff_exists.mp (registered.armed waker alive there) with ⟨owner, here⟩
  rcases Option.map_eq_some_iff.mp (registered.owner waker owner alive there here) with
    ⟨waiting, known, pending⟩
  have event := (registered.suspended owner waiting waker 0 alive known pending).1
  have same := alone owner (EventState.suspended_of_pending known pending)
  subst same
  cases found.symm.trans known
  cases unset.symm.trans event

theorem resolve (registered : Registered state) {id : Wait}
    (found : state.futures id = some future)
    (alone : ∀ other, state.suspended other → other = id)
    (settled : future.event = false ∨ state.isSet)
    (idle : ∀ future waker wakes, new = some future → future.status ≠ .pending waker wakes) :
    Registered { state with futures := Function.update state.futures id new } := by
  by_cases alive : state.alive
  · have bare : state.waker = none :=
      settled.elim (registered.bare alive alone found) registered.isSet
    exact .nobody bare (idle_update alone idle)
      fun _ there => registered.signalled alive there bare
  · exact .gone (Bool.eq_false_iff.mpr alive) registered.isSet

theorem poll (registered : Registered state) {id : Wait} (found : state.futures id = some future)
    (waker : Waker) (alone : ∀ other, state.suspended other → other = id) :
    Registered (state.poll id future waker) := by
  rw [EventState.poll]
  split
  · rename_i unset
    exact registered.resolve found alone (.inl unset) (by rintro _ _ _ ⟨⟩ ⟨⟩)
  rename_i event
  split
  · rename_i dead
    exact .gone dead registered.isSet
  split
  · rename_i isSet
    exact registered.resolve found alone (.inr isSet) (by rintro _ _ _ ⟨⟩ ⟨⟩)
  · rename_i unset
    constructor
    case suspended =>
      intro other pending taker wakes _ known is
      by_cases same : other = id
      · subst same
        simp only [Function.update_self, Option.some.injEq] at known
        subst known
        cases is
        exact ⟨by simpa using event, rfl, .inl ⟨rfl, rfl⟩⟩
      · simp only [Function.update_of_ne same] at known
        exact absurd (alone other (EventState.suspended_of_pending known is)) same
    case armed => exact fun _ _ _ => rfl
    case owner =>
      rintro _ _ - ⟨⟩ ⟨⟩
      simp
    case isSet => exact fun isSet => absurd isSet unset
    case signalled => exact nofun

theorem drop (registered : Registered state) {id : Wait} (found : state.futures id = some future)
    (alone : ∀ other, state.suspended other → other = id) : Registered (state.drop id future) := by
  rw [EventState.drop]
  split
  · rename_i unset
    exact registered.resolve found alone (.inl unset) nofun
  split
  · rename_i dead
    exact .gone dead registered.isSet
  · exact .nobody rfl (idle_update alone nofun) nofun

theorem set (registered : Registered state) (alive : state.alive) : Registered state.set := by
  rw [EventState.set, EventState.takeWaker]
  split
  · rename_i bare
    exact { registered with
      isSet := fun _ => bare
      signalled := by simpa [bare] using registered.signalled }
  · rename_i waker there
    rcases Option.isSome_iff_exists.mp (registered.armed waker alive there) with ⟨id, here⟩
    constructor
    case suspended =>
      intro other after taker wakes _ foundAfter is
      rcases Option.map_eq_some_iff.mp foundAfter with ⟨before, known, rfl⟩
      by_cases mine : state.waitFuture = some other
      · rw [if_pos mine] at is ⊢
        cases status : before.status with
        | pending waiting count =>
          simp only [WaitStatus.taken, status, WaitStatus.pending.injEq] at is
          rcases registered.suspended other before waiting count alive known status with
            ⟨event, -, ⟨rfl, -⟩ | ⟨-, none⟩⟩
          · exact ⟨event, mine, .inr ⟨is.2.symm, rfl⟩⟩
          · cases there.symm.trans none
        | created | ready => simp [WaitStatus.taken, status] at is
      · rw [if_neg mine] at is
        exact absurd (registered.suspended other before taker wakes alive known is).2.1 mine
    case armed => nofun
    case owner => nofun
    case isSet => exact fun _ => rfl
    case signalled => simp [there, here]

variable [DecidableEq Waker]

theorem step (registered : Registered state) (admitted : undisturbed state move)
    (stepped : state.step move = some next) : Registered next := by
  cases move with
  | wait id =>
    rcases of_guard stepped with ⟨⟨alive, new⟩, rfl⟩
    rw [Option.isNone_iff_eq_none] at new
    refine { registered with suspended := ?_, owner := ?_ }
    · intro other future waker wakes alive found is
      by_cases same : other = id
      · subst same
        simp only [Function.update_self, Option.some.injEq] at found
        subst found
        cases is
      · simp only [Function.update_of_ne same] at found
        exact registered.suspended other future waker wakes alive found is
    · intro waker other alive there here
      have owner := registered.owner waker other alive there here
      have different : other ≠ id := by
        rintro rfl
        rw [new] at owner
        cases owner
      simpa only [Function.update_of_ne different] using owner
  | poll id waker =>
    simp only [EventState.step] at stepped
    split at stepped
    · rename_i future found
      rcases of_unless stepped with ⟨unresolved, rfl⟩
      exact registered.poll found waker admitted
    · cases stepped
  | drop id =>
    rcases Option.map_eq_some_iff.mp stepped with ⟨future, found, rfl⟩
    exact registered.drop found admitted
  | set =>
    rcases of_guard stepped with ⟨alive, rfl⟩
    exact registered.set alive
  | clear =>
    rcases of_guard stepped with ⟨alive, rfl⟩
    exact { registered with isSet := nofun }
  | destroy =>
    rcases of_guard stepped with ⟨-, rfl⟩
    exact .gone state.destroy_alive fun _ => state.destroy_waker
  | wake waker =>
    rcases of_guard stepped with ⟨-, rfl⟩
    exact { registered with }

omit [DecidableEq Wait] [DecidableEq Waker] in
theorem initial : Registered ({} : EventState Wait Waker) := by
  constructor <;> nofun

end Registered

/-! ## The end of the event -/

/-- Once the event is gone, a suspended future knows it and has been woken once. -/
structure Detached (state : EventState Wait Waker) : Prop where
  wakes : state.emptyWake = false
  suspended : ∀ id future waker wakes, state.alive = false → state.futures id = some future →
    future.status = .pending waker wakes → future.event = false ∧ wakes = 1

theorem Detached.destroy (detached : Detached state) (registered : Registered state)
    (alive : state.alive) (quiet : state.signalled = none) : Detached state.destroy := by
  rcases registered with ⟨suspended, armed, owner, isSet, signalled⟩
  rw [EventState.destroy]
  split
  · rename_i nobody
    refine ⟨detached.wakes, ?_⟩
    intro other future waker wakes _ found is
    rw [(suspended other future waker wakes alive found is).2.1] at nobody
    cases nobody
  · rename_i id here
    cases there : state.waker with
    | none =>
      have woken := signalled alive (here ▸ rfl) there
      rw [quiet] at woken
      cases woken
    | some waker =>
      simp only [EventState.takeWaker, there]
      refine ⟨by simp [detached.wakes], ?_⟩
      intro other after taker wakes _ foundAfter is
      rcases Option.map_eq_some_iff.mp foundAfter with ⟨taken, foundTaken, rfl⟩
      rcases Option.map_eq_some_iff.mp foundTaken with ⟨before, foundBefore, rfl⟩
      grind -ring -linarith [WaitStatus.taken]

variable [DecidableEq Waker]

theorem Detached.step (detached : Detached state) (registered : Registered state)
    (admitted : settled state move) (stepped : state.step move = some next) : Detached next := by
  cases move with
  | wait id =>
    rcases of_guard stepped with ⟨⟨alive, -⟩, rfl⟩
    exact ⟨detached.wakes, fun _ _ _ _ gone => nomatch gone.symm.trans alive⟩
  | poll id waker =>
    simp only [EventState.step] at stepped
    split at stepped
    · rename_i future found
      rcases of_unless stepped with ⟨-, rfl⟩
      rcases detached with ⟨wakes, suspended⟩
      simp only [EventState.poll]
      repeat' split
      all_goals constructor <;> grind -ring -linarith
    · cases stepped
  | drop id =>
    rcases Option.map_eq_some_iff.mp stepped with ⟨future, found, rfl⟩
    rcases detached with ⟨wakes, suspended⟩
    simp only [EventState.drop]
    repeat' split
    all_goals constructor <;> grind -ring -linarith
  | set =>
    rcases of_guard stepped with ⟨alive, rfl⟩
    simp only [EventState.set, EventState.takeWaker]
    split
    all_goals exact ⟨detached.wakes, fun _ _ _ _ gone => nomatch gone.symm.trans alive⟩
  | clear =>
    rcases of_guard stepped with ⟨alive, rfl⟩
    exact ⟨detached.wakes, detached.suspended⟩
  | destroy =>
    rcases of_guard stepped with ⟨alive, rfl⟩
    exact detached.destroy registered alive admitted
  | wake waker =>
    rcases of_guard stepped with ⟨-, rfl⟩
    exact ⟨detached.wakes, detached.suspended⟩

/-- What the documentation says of an event that is destroyed while a future is suspended. -/
structure LifetimeKept (state : EventState Wait Waker) : Prop where
  wakes : state.emptyWake = false
  detached : ∀ id future, state.alive = false → state.futures id = some future →
    state.suspended id → future.event = false
  once : ∀ id future waker wakes, state.alive = false → state.futures id = some future →
    future.status = .pending waker wakes → wakes = 1
  resolves : ∀ id waker next, state.alive = false → state.suspended id →
    state.step (.poll id waker) = some next →
      next.futures id = some ⟨false, .ready⟩ ∧ next.touched = state.touched
  drops : ∀ id next, state.alive = false → state.suspended id →
    state.step (.drop id) = some next → next.touched = state.touched

theorem Detached.lifetimeKept (detached : Detached state) : LifetimeKept state := by
  have event : ∀ id future, state.alive = false → state.futures id = some future →
      state.suspended id → future.event = false := by
    intro id future gone found suspended
    rw [EventState.suspended, found] at suspended
    rcases future with ⟨event, _ | ⟨waker, wakes⟩ | _⟩
    · cases suspended
    · exact (detached.suspended id _ waker wakes gone found rfl).1
    · cases suspended
  refine ⟨detached.wakes, event, ?_, ?_, ?_⟩
  · intro id future waker wakes gone found is
    exact (detached.suspended id future waker wakes gone found is).2
  · intro id waker next gone suspended stepped
    simp only [EventState.step] at stepped
    split at stepped
    · rename_i future found
      rcases of_unless stepped with ⟨-, rfl⟩
      have null := event id future gone found suspended
      simp only [EventState.poll, null, if_true]
      exact ⟨Function.update_self .., trivial⟩
    · cases stepped
  · intro id next gone suspended stepped
    rcases Option.map_eq_some_iff.mp stepped with ⟨future, found, rfl⟩
    rw [EventState.drop, if_pos (event id future gone found suspended)]

/-- An event may be destroyed while a future is suspended, if that one has not been woken by
a `set()` since it suspended, and if no other future has been dropped meanwhile. -/
theorem event_lifetime_kept (reached : (eventMachine Wait Waker).Reaches settled state) :
    LifetimeKept state := by
  have both := reached.invariant (fun state => Registered state ∧ Detached state) ?_ ?_
  · exact both.2.lifetimeKept
  · rintro state move next ⟨registered, detached⟩ admitted stepped
    have calm : undisturbed state move := by
      cases move <;> first | exact admitted | trivial
    exact ⟨registered.step calm stepped, detached.step registered admitted stepped⟩
  · exact ⟨.initial, rfl, nofun⟩

/-- A future suspends, is woken once by a `set()`, suspends again after a `clear()`, and then
the event is destroyed. -/
theorem event_lifetime_kept_suspended :
    ∃ state : EventState Unit Nat, (eventMachine Unit Nat).Reaches settled state ∧
      state.alive = false ∧ state.futures () = some ⟨false, .pending 5 1⟩ ∧
      state.waking = [5] ∧ LifetimeKept state := by
  refine exists_of_exec
    [.wait (), .poll () 3, .set, .wake 3, .clear, .poll () 5, .destroy]
    (by decide +kernel) fun reached => ⟨?_, ?_, ?_, event_lifetime_kept reached⟩
  all_goals decide +kernel

/-- A future suspends, a `set()` takes its waker, and the event is destroyed before the task
has polled the future again: the destructor finds the future and no waker. -/
theorem destructor_wakes_nobody :
    ¬∀ state : EventState Unit Nat,
      (eventMachine Unit Nat).Reaches singleWaiter state → LifetimeKept state := by
  intro always
  have reached := (eventMachine Unit Nat).reaches_exec singleWaiter
    [.wait (), .poll () 3, .set, .destroy] (by decide +kernel)
  exact absurd (always _ reached).wakes (by decide +kernel)

end CoroRuntime.Event
