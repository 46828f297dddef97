import CoroRuntime.Watch.Channel

/-! # No update is missed -/

namespace CoroRuntime.Watch

open Foundation

variable {Publisher Receiver Future Waker T : Type}

/-- The increments that a poll which found no change had seen, until it registers. -/
def WatchState.window (state : WatchState Publisher Receiver Future Waker T) (id : Future) :
    Option Nat :=
  match state.future id with
  | some ⟨_, _, _, .unchanged _ seen, _⟩ => some seen
  | _ => none

def Publishing.undrained : Publishing Waker → Option Nat
  | .published _ increment => some increment
  | _ => none

/-- Nothing happens between the two sections of a poll that would make it miss an
update: a publisher whose increment it has not seen does not drain the waiters, the
last sender does not close after such an increment, and with no sender left nothing
is published. -/
def windowsRespected (state : WatchState Publisher Receiver Future Waker T) :
    Move Publisher Receiver Future Waker T → Prop
  | .drain publisher =>
    ∀ increment ∈ (state.publisher publisher).undrained, ∀ id, ∀ seen ∈ state.window id,
      increment ≤ seen
  | .close _ => state.senderCount = 1 → ∀ id, ∀ seen ∈ state.window id, state.increments = seen
  | .send _ _ | .sendIfModified _ _ | .dropGuard _ _ =>
    state.senderCount = 0 → ∀ id, state.window id = none
  | _ => True

instance [Fintype Future] (state : WatchState Publisher Receiver Future Waker T)
    (move : Move Publisher Receiver Future Waker T) : Decidable (windowsRespected state move) := by
  cases move <;> unfold windowsRespected <;> infer_instance

/-- No call of a publisher is between its critical sections or still calling wakers. -/
def WatchState.Quiet (state : WatchState Publisher Receiver Future Waker T) : Prop :=
  ∀ publisher, state.publisher publisher = .absent ∨ state.publisher publisher = .sender ∨
    state.publisher publisher = .guard

/-- What a Pending future can count on: its waker is about to be called, or it is
linked with that waker and either there is no update or a drain is still to come. -/
def WatchState.Attended (state : WatchState Publisher Receiver Future Waker T) (id : Future)
    (future : ChangedFuture Receiver Waker) (waker : Waker) : Prop :=
  (∃ publisher stays wakers, state.publisher publisher = .waking stays wakers ∧
    waker ∈ wakers) ∨
  (id ∈ state.receiverWaiters ∧ future.nodeWaker = some waker ∧
    (future.lastSeen = state.version ∨
      ∃ publisher increment, (state.publisher publisher).undrained = some increment))

/-- What a poll that found no change can count on until it registers. -/
structure WatchState.Current (state : WatchState Publisher Receiver Future Waker T)
    (lastSeen : BitVec 64) (seen : Nat) : Prop where
  bounded : seen ≤ state.increments
  unchanged : state.increments = seen → lastSeen = state.version
  undrained : ∀ increment, seen < increment → increment ≤ state.increments →
    ∃ publisher, (state.publisher publisher).undrained = some increment
  closed : state.senderCount = 0 → state.increments = seen

structure Informed (state : WatchState Publisher Receiver Future Waker T) : Prop where
  closed : state.senderCount = 0 → state.receiverWaiters = []
  pending : ∀ id future waker, state.future id = some future →
    future.status = .pending waker false → state.Attended id future waker
  window : ∀ id future waker seen, state.future id = some future →
    future.polling = .unchanged waker seen → state.Current future.lastSeen seen

namespace WatchState

variable {state : WatchState Publisher Receiver Future Waker T}

theorem window_eq {id : Future} {future : ChangedFuture Receiver Waker}
    (found : state.future id = some future) (polling : future.polling = .unchanged waker seen) :
    state.window id = some seen := by
  rcases future with ⟨receiver, lastSeen, nodeWaker, polled, status⟩
  cases polling
  simp only [window, found]

/-- With no publisher in the middle of a call, a waiting future is up to date. -/
theorem Attended.upToDate {id : Future} {future : ChangedFuture Receiver Waker}
    (attended : state.Attended id future waker) (quiet : state.Quiet) :
    id ∈ state.receiverWaiters ∧ future.lastSeen = state.version := by
  rcases attended with ⟨publisher, stays, wakers, waking, _⟩ | ⟨linked, _, upToDate | owed⟩
  · have rests := quiet publisher
    rw [waking] at rests
    simp at rests
  · exact ⟨linked, upToDate⟩
  · rcases owed with ⟨publisher, increment, undrained⟩
    rcases quiet publisher with rests | rests | rests <;>
    · rw [rests] at undrained
      exact nomatch undrained

end WatchState

/-! ## Publishers -/

section Publishers

variable [DecidableEq Publisher] {state : WatchState Publisher Receiver Future Waker T}
  {publisher : Publisher} {phase : Publishing Waker}

theorem undrained_update {phases : Publisher → Publishing Waker}
    (rests : (phases publisher).undrained = none)
    (owed : ∃ other, (phases other).undrained = some increment) :
    ∃ other, (Function.update phases publisher phase other).undrained = some increment := by
  rcases owed with ⟨other, undrained⟩
  have different : other ≠ publisher := by
    intro same
    subst same
    rw [rests] at undrained
    exact nomatch undrained
  exact ⟨other, by rwa [Function.update_of_ne different]⟩

/-- A publisher that owes nobody a drain or a wake may change its phase. -/
theorem Informed.setPublisher (informed : Informed state)
    (rests : (state.publisher publisher).undrained = none)
    (wakesNobody : ∀ stays wakers, state.publisher publisher = .waking stays wakers →
      wakers = []) :
    Informed (state.setPublisher publisher phase) where
  closed := informed.closed
  pending := by
    intro id future waker found pending
    rcases informed.pending id future waker found pending with
      ⟨other, stays, wakers, waking, member⟩ | ⟨linked, armed, upToDate | undrained⟩
    · have different : other ≠ publisher := by
        intro same
        subst same
        rw [wakesNobody stays wakers waking] at member
        exact nomatch member
      exact .inl ⟨other, stays, wakers, by simpa [WatchState.setPublisher, different] using waking,
        member⟩
    · exact .inr ⟨linked, armed, .inl upToDate⟩
    · rcases undrained with ⟨other, increment, owes⟩
      rcases undrained_update rests ⟨other, owes⟩ with ⟨still, stillOwes⟩
      exact .inr ⟨linked, armed, .inr ⟨still, increment, stillOwes⟩⟩
  window := by
    intro id future waker seen found polling
    have current := informed.window id future waker seen found polling
    exact ⟨current.bounded, current.unchanged,
      fun increment after upTo => undrained_update rests (current.undrained increment after upTo),
      current.closed⟩

/-- A publisher that was resting makes a new increment and owes a drain for it. -/
theorem Informed.publish (informed : Informed state) (stays : Bool) (value : T)
    (rests : (state.publisher publisher).undrained = none)
    (wakesNobody : ∀ stays wakers, state.publisher publisher ≠ .waking stays wakers)
    (respected : state.senderCount = 0 → ∀ id, state.window id = none) :
    Informed (state.publish publisher stays value) where
  closed := informed.closed
  pending := by
    intro id future waker found pending
    rcases informed.pending id future waker found pending with
      ⟨other, otherStays, wakers, waking, member⟩ | ⟨linked, armed, _⟩
    · have different : other ≠ publisher := by
        intro same
        subst same
        exact wakesNobody _ _ waking
      exact .inl ⟨other, otherStays, wakers,
        by simpa [WatchState.publish, WatchState.setPublisher, different] using waking, member⟩
    · exact .inr ⟨linked, armed, .inr ⟨publisher, state.increments + 1,
        by simp [WatchState.publish, WatchState.setPublisher, Publishing.undrained]⟩⟩
  window := by
    intro id future waker seen found polling
    change state.future id = some future at found
    have current := informed.window id future waker seen found polling
    refine ⟨Nat.le_succ_of_le current.bounded, ?_, ?_, ?_⟩
    · intro same
      have bounded := current.bounded
      simp only [WatchState.publish, WatchState.setPublisher] at same
      omega
    · intro increment after upTo
      by_cases newest : increment = state.increments + 1
      · subst newest
        exact ⟨publisher, by simp [WatchState.publish, WatchState.setPublisher,
          Publishing.undrained]⟩
      · have upToOld : increment ≤ state.increments :=
          Nat.le_of_lt_succ (lt_of_le_of_ne upTo newest)
        exact undrained_update rests (current.undrained increment after upToOld)
    · intro closed
      have none := respected closed id
      rw [WatchState.window_eq found polling] at none
      exact nomatch none

end Publishers

/-! ## Waking -/

section Waking

variable {state : WatchState Publisher Receiver Future Waker T}

theorem unlinkWaiters_found [DecidableEq Future] {id : Future}
    (found : state.unlinkWaiters.future id = some future) :
    ∃ before, state.future id = some before ∧ before.status = future.status ∧
      before.lastSeen = future.lastSeen ∧ before.polling = future.polling := by
  simp only [WatchState.unlinkWaiters] at found
  split at found
  · rcases Option.map_eq_some_iff.mp found with ⟨before, was, rfl⟩
    exact ⟨before, was, rfl, rfl, rfl⟩
  · exact ⟨future, found, rfl, rfl, rfl⟩

/-- All waiters are unlinked and their wakers called by `publisher`, which owes no
wake yet. -/
theorem informed_drainWaiters [DecidableEq Publisher] [DecidableEq Future] (stays : Bool)
    (attended : ∀ id future waker, state.future id = some future →
      future.status = .pending waker false → state.Attended id future waker)
    (current : ∀ id future waker seen, state.future id = some future →
      future.polling = .unchanged waker seen → state.Current future.lastSeen seen)
    (wakesNobody : ∀ stays wakers, state.publisher publisher ≠ .waking stays wakers)
    (respected : ∀ increment ∈ (state.publisher publisher).undrained, ∀ id,
      ∀ seen ∈ state.window id, increment ≤ seen) :
    Informed (state.drainWaiters publisher stays) where
  closed := fun _ => rfl
  pending := by
    intro id future waker found pending
    rcases unlinkWaiters_found found with ⟨before, was, status, _, _⟩
    rw [← status] at pending
    rcases attended id before waker was pending with
      ⟨other, otherStays, wakers, waking, member⟩ | ⟨linked, armed, _⟩
    · have different : other ≠ publisher := by
        intro same
        subst same
        exact wakesNobody _ _ waking
      exact .inl ⟨other, otherStays, wakers, by
        simpa [WatchState.drainWaiters, WatchState.setPublisher, WatchState.unlinkWaiters,
          different] using waking, member⟩
    · have collected : waker ∈ state.waiterWakers :=
        List.mem_filterMap.mpr ⟨id, linked, by rw [was]; exact armed⟩
      exact .inl ⟨publisher, stays, state.waiterWakers,
        by simp [WatchState.drainWaiters, WatchState.setPublisher], collected⟩
  window := by
    intro id future waker seen found polling
    rcases unlinkWaiters_found found with ⟨before, was, _, lastSeen, polled⟩
    rw [← polled] at polling
    have current := current id before waker seen was polling
    rw [lastSeen] at current
    refine ⟨current.bounded, current.unchanged, ?_, current.closed⟩
    intro increment after upTo
    rcases current.undrained increment after upTo with ⟨other, owes⟩
    have different : other ≠ publisher := by
      intro same
      subst same
      have atMost := respected increment owes id seen (WatchState.window_eq was polling)
      omega
    exact ⟨other, by simpa [WatchState.drainWaiters, WatchState.setPublisher,
      WatchState.unlinkWaiters, different] using owes⟩

theorem woken_unwoken [DecidableEq Waker] {future : ChangedFuture Receiver Waker}
    (unwoken : (future.woken called).status = .pending waker false) :
    future.status = .pending waker false ∧ waker ≠ called := by
  unfold ChangedFuture.woken at unwoken
  split at unwoken
  · rename_i registered woken status
    simp only [Status.pending.injEq, Bool.or_eq_false_iff, decide_eq_false_iff_not] at unwoken
    rcases unwoken with ⟨rfl, rfl, different⟩
    exact ⟨status, different⟩
  · rename_i notPending
    exact (notPending _ _ unwoken).elim

theorem woken_kept [DecidableEq Waker] (future : ChangedFuture Receiver Waker)
    (called : Waker) :
    (future.woken called).nodeWaker = future.nodeWaker ∧
      (future.woken called).lastSeen = future.lastSeen ∧
      (future.woken called).polling = future.polling := by
  unfold ChangedFuture.woken
  split <;> exact ⟨rfl, rfl, rfl⟩

theorem Informed.wake [DecidableEq Publisher] [DecidableEq Waker] (informed : Informed state)
    (waking : state.publisher publisher = .waking stays (called :: wakers)) :
    Informed ((state.callWaker called).setPublisher publisher (.waking stays wakers)) := by
  have rests : (state.publisher publisher).undrained = none := by
    rw [waking]
    rfl
  refine ⟨informed.closed, ?_, ?_⟩
  · intro id future waker found pending
    rcases Option.map_eq_some_iff.mp found with ⟨before, was, rfl⟩
    have unwoken := woken_unwoken pending
    rcases informed.pending id before waker was unwoken.1 with
      ⟨other, otherStays, list, otherWaking, member⟩ | ⟨linked, armed, attended⟩
    · by_cases same : other = publisher
      · subst same
        rw [waking] at otherWaking
        cases otherWaking
        have remaining : waker ∈ wakers := List.mem_of_ne_of_mem unwoken.2 member
        exact .inl ⟨other, stays, wakers, by simp [WatchState.setPublisher], remaining⟩
      · exact .inl ⟨other, otherStays, list,
          by simpa [WatchState.setPublisher, WatchState.callWaker, same] using otherWaking, member⟩
    · rcases woken_kept before called with ⟨nodeWaker, lastSeen, _⟩
      refine .inr ⟨linked, nodeWaker.trans armed, ?_⟩
      rcases attended with upToDate | ⟨other, increment, owes⟩
      · exact .inl (lastSeen.trans upToDate)
      · rcases undrained_update rests ⟨other, owes⟩ with ⟨still, stillOwes⟩
        exact .inr ⟨still, increment, stillOwes⟩
  · intro id future waker seen found polling
    rcases Option.map_eq_some_iff.mp found with ⟨before, was, rfl⟩
    rcases woken_kept before called with ⟨_, lastSeen, polled⟩
    rw [polled] at polling
    have current := informed.window id before waker seen was polling
    rw [lastSeen]
    refine ⟨current.bounded, current.unchanged, ?_, current.closed⟩
    intro increment after upTo
    exact undrained_update rests (current.undrained increment after upTo)

theorem Informed.close [DecidableEq Publisher] [DecidableEq Future] (informed : Informed state)
    (sender : state.publisher publisher = .sender)
    (respected : state.senderCount = 1 → ∀ id, ∀ seen ∈ state.window id,
      state.increments = seen) : Informed (state.close publisher) := by
  have rests : (state.publisher publisher).undrained = none := by
    rw [sender]
    rfl
  unfold WatchState.close
  simp only
  split
  · rename_i last
    refine informed_drainWaiters false informed.pending ?_ ?_ ?_
    · intro id future waker seen found polling
      have current := informed.window id future waker seen found polling
      refine ⟨current.bounded, current.unchanged, current.undrained, ?_⟩
      intro _
      by_cases already : state.senderCount = 0
      · exact current.closed already
      · exact respected (by omega) id seen (WatchState.window_eq found polling)
    · intro stays wakers waking
      rw [show state.publisher publisher = _ from sender] at waking
      exact nomatch waking
    · intro increment owes
      rw [rests] at owes
      exact nomatch owes
  · rename_i others
    have left : Informed { state with senderCount := state.senderCount - 1 } := by
      refine ⟨fun none => (others none).elim, informed.pending, ?_⟩
      intro id future waker seen found polling
      have current := informed.window id future waker seen found polling
      exact ⟨current.bounded, current.unchanged, current.undrained,
        fun none => (others none).elim⟩
    apply left.setPublisher rests
    intro stays wakers waking
    rw [show state.publisher publisher = _ from sender] at waking
    exact nomatch waking

end Waking

/-! ## Futures -/

theorem Informed.setFuture [DecidableEq Future]
    {state : WatchState Publisher Receiver Future Waker T} (informed : Informed state) {id : Future}
    (linked : ∀ other, other ≠ id → other ∈ state.receiverWaiters → other ∈ waiters)
    (closed : state.senderCount = 0 → waiters = [])
    (attended : ∀ future waker, contents = some future →
      future.status = .pending waker false →
      { state with receiverWaiters := waiters, receiver := receivers }.Attended id future waker)
    (current : ∀ future waker seen, contents = some future →
      future.polling = .unchanged waker seen → state.Current future.lastSeen seen) :
    Informed ({ state with receiverWaiters := waiters, receiver := receivers }.setFuture id
      contents) := by
  refine ⟨closed, ?_, ?_⟩
  · intro other future waker found pending
    by_cases same : other = id
    · subst same
      exact attended future waker (by simpa [WatchState.setFuture] using found) pending
    · have kept : state.future other = some future := by
        simpa [WatchState.setFuture, same] using found
      rcases informed.pending other future waker kept pending with waking | ⟨member, armed, rest⟩
      · exact .inl waking
      · exact .inr ⟨linked other same member, armed, rest⟩
  · intro other future waker seen found polling
    by_cases same : other = id
    · subst same
      have mine := current future waker seen (by simpa [WatchState.setFuture] using found) polling
      exact { mine with }
    · have kept : state.future other = some future := by
        simpa [WatchState.setFuture, same] using found
      have mine := informed.window other future waker seen kept polling
      exact { mine with }

section Polls

variable [DecidableEq Future] {state : WatchState Publisher Receiver Future Waker T}
  {id : Future} {future : ChangedFuture Receiver Waker}

variable (informed : Informed state)

include informed

theorem Informed.erased :
    (∀ other, other ≠ id → other ∈ state.receiverWaiters →
      other ∈ state.receiverWaiters.erase id) ∧
    (state.senderCount = 0 → state.receiverWaiters.erase id = []) := by
  refine ⟨fun other different member => (List.mem_erase_of_ne different).mpr member, ?_⟩
  intro none
  rw [informed.closed none]
  rfl

theorem Informed.pollCheck (found : state.future id = some future) (waker : Waker) :
    Informed (state.pollCheck id future waker) := by
  unfold WatchState.pollCheck
  split
  · refine informed.setFuture (fun _ _ member => member) informed.closed ?_ ?_
    · rintro _ registered ⟨⟩ pending
      exact informed.pending id future registered found pending
    · rintro _ _ _ ⟨⟩ polling
      exact nomatch polling
  · rename_i same
    refine informed.setFuture (fun _ _ member => member) informed.closed ?_ ?_
    · rintro _ registered ⟨⟩ pending
      exact informed.pending id future registered found pending
    · rintro _ _ _ ⟨⟩ ⟨⟩
      refine ⟨le_rfl, fun _ => (not_not.mp same).symm, ?_, fun _ => rfl⟩
      intro increment after upTo
      omega

theorem Informed.pollChanged [DecidableEq Receiver] (current : BitVec 64) :
    Informed (state.pollChanged id future current) := by
  refine informed.setFuture informed.erased.1 informed.erased.2 ?_ ?_
  · rintro _ _ ⟨⟩ pending
    exact nomatch pending
  · rintro _ _ _ ⟨⟩ polling
    exact nomatch polling

/-- The second section still finds the version that the first one saw, or a publisher
that has yet to drain the waiters. -/
theorem Informed.pollRegister (found : state.future id = some future)
    (polling : future.polling = .unchanged waker seen) :
    Informed (state.pollRegister id future waker) := by
  have current := informed.window id future waker seen found polling
  unfold WatchState.pollRegister
  split
  · refine informed.setFuture informed.erased.1 informed.erased.2 ?_ ?_
    · rintro _ _ ⟨⟩ pending
      exact nomatch pending
    · rintro _ _ _ ⟨⟩ out
      exact nomatch out
  · rename_i remaining
    refine informed.setFuture ?_ (fun none => (remaining none).elim) ?_ ?_
    · intro other different member
      exact List.mem_append_left _ (informed.erased.1 other different member)
    · rintro _ _ ⟨⟩ ⟨⟩
      refine .inr ⟨List.mem_append_right _ (List.mem_singleton_self _), rfl, ?_⟩
      by_cases unchanged : state.increments = seen
      · exact .inl (current.unchanged unchanged)
      · have bounded := current.bounded
        rcases current.undrained state.increments (by omega) le_rfl with ⟨publisher, owes⟩
        exact .inr ⟨publisher, state.increments, owes⟩
    · rintro _ _ _ ⟨⟩ out
      exact nomatch out

end Polls

/-! ## Runs -/

section Runs

variable [DecidableEq Publisher] {state next : WatchState Publisher Receiver Future Waker T}

theorem Informed.publishes (informed : Informed state) (stays : Bool) (value : T)
    (idle : state.publisher publisher = .sender ∨ state.publisher publisher = .guard)
    (respected : state.senderCount = 0 → ∀ id, state.window id = none) :
    Informed (state.publish publisher stays value) := by
  refine informed.publish stays value ?_ ?_ respected
  · rcases idle with sender | guard
    · rw [sender]
      rfl
    · rw [guard]
      rfl
  · intro otherStays wakers waking
    rw [waking] at idle
    rcases idle with sender | guard
    · exact nomatch sender
    · exact nomatch guard

theorem informed_watchChannel [DecidableEq Receiver] (sender : Publisher) (receiver : Receiver)
    (initial : T) :
    Informed (watchChannel sender receiver initial :
      WatchState Publisher Receiver Future Waker T) :=
  ⟨nofun, nofun, nofun⟩

variable [DecidableEq Receiver] [DecidableEq Future] [DecidableEq Waker]

theorem Informed.step (informed : Informed state) (respected : windowsRespected state move)
    (stepped : state.step move = some next) : Informed next := by
  cases move with simp only [WatchState.step] at stepped
  | cloneSender source target =>
    rcases of_guard stepped with ⟨⟨_, absent⟩, rfl⟩
    have more : Informed { state with senderCount := state.senderCount + 1 } := by
      refine ⟨nofun, informed.pending, ?_⟩
      intro id future waker seen found polling
      have current := informed.window id future waker seen found polling
      exact ⟨current.bounded, current.unchanged, current.undrained, nofun⟩
    refine more.setPublisher ?_ ?_
    · rw [show state.publisher target = _ from absent]
      rfl
    · intro stays wakers waking
      rw [show state.publisher target = _ from absent] at waking
      exact nomatch waking
  | borrowMut source guard =>
    rcases of_guard stepped with ⟨⟨_, absent⟩, rfl⟩
    refine informed.setPublisher ?_ ?_
    · rw [absent]
      rfl
    · intro stays wakers waking
      rw [absent] at waking
      exact nomatch waking
  | send publisher value =>
    rcases of_guard stepped with ⟨sender, rfl⟩
    split
    · exact informed
    · exact informed.publishes true value (.inl sender) respected
  | sendIfModified publisher modify =>
    rcases of_guard stepped with ⟨sender, rfl⟩
    split
    · exact informed.publishes true _ (.inl sender) respected
    · exact ⟨informed.closed, informed.pending, fun id future waker seen found polling =>
        have current := informed.window id future waker seen found polling
        { current with }⟩
  | dropGuard guard mutate =>
    rcases of_guard stepped with ⟨held, rfl⟩
    exact informed.publishes false _ (.inr held) respected
  | drain publisher =>
    split at stepped <;> cases stepped
    rename_i stays increment published
    refine informed_drainWaiters stays informed.pending informed.window ?_ respected
    intro otherStays wakers waking
    rw [published] at waking
    exact nomatch waking
  | wake publisher =>
    split at stepped <;> cases stepped
    rename_i stays waker wakers waking
    exact informed.wake waking
  | finish publisher =>
    split at stepped <;> cases stepped
    rename_i stays waking
    refine informed.setPublisher ?_ ?_
    · rw [waking]
      rfl
    · intro otherStays wakers same
      rw [waking] at same
      cases same
      rfl
  | close publisher =>
    rcases of_guard stepped with ⟨sender, rfl⟩
    exact informed.close sender respected
  | cloneReceiver target | closeReceiver target | borrowAndUpdate target =>
    rcases of_guard stepped with ⟨_, rfl⟩
    exact ⟨informed.closed, informed.pending, fun id future waker seen found polling =>
      have current := informed.window id future waker seen found polling
      { current with }⟩
  | changed receiver id =>
    split at stepped <;> cases stepped
    refine informed.setFuture (fun _ _ member => member) informed.closed ?_ ?_
    · rintro _ _ ⟨⟩ pending
      exact nomatch pending
    · rintro _ _ _ ⟨⟩ polling
      exact nomatch polling
  | pollCheck id waker =>
    split at stepped
    · rename_i future found
      rcases of_guard stepped with ⟨-, rfl⟩
      exact informed.pollCheck found waker
    · cases stepped
  | pollChanged id =>
    split at stepped
    · split at stepped <;> cases stepped
      exact informed.pollChanged _
    · cases stepped
  | pollRegister id =>
    split at stepped
    · rename_i future found
      split at stepped <;> cases stepped
      rename_i waker seen polling
      exact informed.pollRegister found polling
    · cases stepped
  | dropFuture id =>
    split at stepped
    · rcases of_guard stepped with ⟨-, rfl⟩
      exact informed.setFuture informed.erased.1 informed.erased.2 nofun nofun
    · cases stepped

/-- `changed()` has missed no update: a future that waits unwoken is up to date and may
still be woken, and one that is told that no sender is left has seen every update. -/
structure UpdatesSeen (state : WatchState Publisher Receiver Future Waker T) : Prop where
  waiting : state.Quiet → ∀ id future waker, state.future id = some future →
    future.status = .pending waker false →
    future.lastSeen = state.version ∧ 0 < state.senderCount
  senderDropped : ∀ id next future, state.step (.pollRegister id) = some next →
    next.future id = some future → future.status = .senderDropped →
    next.version = future.lastSeen

theorem Informed.updatesSeen (informed : Informed state) : UpdatesSeen state where
  waiting := by
    intro quiet id future waker found pending
    have attended := informed.pending id future waker found pending
    rcases attended.upToDate quiet with ⟨linked, upToDate⟩
    refine ⟨upToDate, Nat.pos_of_ne_zero ?_⟩
    intro none
    rw [informed.closed none] at linked
    exact List.not_mem_nil linked
  senderDropped := by
    intro id next after stepped found dropped
    simp only [WatchState.step] at stepped
    split at stepped
    · rename_i future before
      split at stepped <;> cases stepped
      rename_i waker seen polling
      have current := informed.window id future waker seen before polling
      simp only [WatchState.pollRegister] at found ⊢
      split at found
      · rename_i none
        rw [if_pos none]
        simp only [WatchState.setFuture, Function.update_self, Option.some.injEq] at found
        rw [← found]
        exact (current.unchanged (current.closed none)).symm
      · simp only [WatchState.setFuture, Function.update_self, Option.some.injEq] at found
        rw [← found] at dropped
        exact nomatch dropped
    · cases stepped

/-- `changed()` misses no update in a run that leaves the gap between the two critical
sections of its polls alone. -/
theorem watch_updates_seen {sender : Publisher} {receiver : Receiver} {initial : T}
    (reached : (watchMachine Future Waker sender receiver initial).Reaches windowsRespected
      state) : UpdatesSeen state :=
  Informed.updatesSeen
    (reached.invariant Informed (fun _ _ _ informed => informed.step)
      (informed_watchChannel sender receiver initial))

end Runs

/-- A value is sent while a poll is between its sections, and the waiters are drained
only after the future is among them. The next future waits for the value after it. -/
theorem watch_updates_seen_late_drain :
    ∃ state : WatchState Unit Unit Bool Unit Nat,
      (watchMachine Bool Unit () () 0).Reaches windowsRespected state ∧
      state.Quiet ∧ (state.future true).map (·.status) = some (.pending () false) ∧
      state.version = 1 ∧ UpdatesSeen state := by
  refine exists_of_exec
    [.changed () false, .pollCheck false (), .send () 7, .pollRegister false, .drain (),
      .wake (), .finish (), .pollCheck false (), .pollChanged false, .changed () true,
      .pollCheck true (), .pollRegister true]
    (by decide +kernel) fun reached =>
      ⟨fun _ => .inr (.inl rfl), ?_, ?_, watch_updates_seen reached⟩
  all_goals decide +kernel

/-- A send that falls between the two sections of a poll drains the waiters before the
future is one of them. The future then waits for a value that has already been sent. -/
theorem send_between_sections_missed :
    ¬∀ state : WatchState Unit Unit Unit Unit Nat,
      (watchMachine Unit Unit () () 0).Reaches anyMove state → UpdatesSeen state := by
  intro always
  have reached := (watchMachine Unit Unit () () 0).reaches_exec anyMove
    [.changed () (), .pollCheck () (), .send () 7, .drain (), .finish (), .pollRegister ()]
    (by decide +kernel)
  have seen := (always _ reached).waiting (fun _ => .inr (.inl rfl)) ()
    ⟨(), 0, some (), .out, .pending () false⟩ () rfl rfl
  exact absurd seen.1 (by decide +kernel)

end CoroRuntime.Watch
