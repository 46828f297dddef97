import CoroRuntime.Coroutine.Lifetime

/-! # The cancellation protocol

What a coroutine does from the `cancel()` on: it drains the future that it awaits,
destroys its frame, and waits for the children of its scope.
-/

namespace CoroRuntime.Coroutine

open Foundation

variable {Child : Type} {kind : Kind} {state next : Awaiting Child}

/-! ## What a move can do -/

/-- The moves by what they do to the control of the coroutine and to the future that it
awaits. -/
inductive Turn (kind : Kind) (state : Awaiting Child) : Awaiting Child → Prop
  /-- Tasks, handles and the scope change. -/
  | children {after : Awaiting Child} (status handles pending dropped)
      (coro : after.coro = { state.coro with
        status := status, handles := handles, pending := pending, dropped := dropped })
      (awaitable : after.awaitable = state.awaitable) (answers : after.answers = state.answers) :
      Turn kind state after
  | cancelled {after : Awaiting Child} (idle : state.coro.phase.isIdle)
      (coro : after.coro = { state.coro with cancelled := true })
      (awaitable : after.awaitable = state.awaitable) (answers : after.answers = state.answers) :
      Turn kind state after
  | polled (idle : state.coro.phase.isIdle) :
      Turn kind state (state.record (state.coro.poll kind) true)
  | destructor {after : Awaiting Child} {phase : Phase} (idle : state.coro.phase.isIdle)
      (leaves : phase = .gone ∨ phase = .destroying .destructor)
      (coro : after.coro = { state.coro with phase := phase })
      (awaitable : after.awaitable = state.awaitable) (answers : after.answers = state.answers) :
      Turn kind state after
  | cancelReturned (phase : state.coro.phase = .cancelling) :
      Turn kind state (state.record (state.coro.cancelReturns kind) true)
  | repolled {awaitable : FutureAwaitable} (budget pending : Bool)
      (phase : state.coro.phase = .repolling) (found : state.awaitable = some awaitable) :
      Turn kind state { state.record
        (state.coro.repollReturns kind (awaitable.poll budget pending).2) true with
        awaitable := some (awaitable.poll budget pending).1 }
  | destroyed (reason : Teardown) (phase : state.coro.phase = .destroying reason) :
      Turn kind state (state.record (state.coro.destroyReturns kind reason) true)
  | swept (again : Bool) (goal : Goal) (phase : state.coro.phase = .draining again goal) :
      Turn kind state (state.record (state.coro.sweep kind again goal) true)
  | awaited (cancellable budget : Bool) (phase : state.coro.phase = .resumed) :
      Turn kind state { state.record
        ({ state.coro with
          pollCurrent := true
          cancelCurrent := state.coro.cancelCurrent || cancellable }.drain kind .suspended)
        true with
        awaitable := some (.awaitReady cancellable budget) }
  | yielded (phase : state.coro.phase = .resumed) :
      Turn kind state (state.record (state.coro.give .item) true)
  | completed (failed finalValue : Bool) (phase : state.coro.phase = .resumed) :
      Turn kind state (state.record
        ({ state.coro with frame := .done failed finalValue }.finish kind) true)

namespace Awaiting

theorem record_awaitable {coro : CoroState Child} (polling : Bool)
    (same : coro.phase = state.coro.phase ∨ coro.phase ≠ .cancelling) :
    (state.record coro polling).awaitable = state.awaitable := by
  refine if_neg fun entered => ?_
  rcases same with same | other
  · exact entered.2 (same.symm.trans entered.1)
  · exact other entered.1

theorem record_answers {coro : CoroState Child} (same : coro.phase = state.coro.phase) :
    (state.record coro !state.coro.phase.isIdle).answers = state.answers := by
  have silent : (if !state.coro.phase.isIdle then coro.answer else []) = [] := by
    cases phase : state.coro.phase <;> rw [phase] at same <;>
      simp [Phase.isIdle, CoroState.answer, same]
  simp only [record]
  rw [silent, List.append_nil]

theorem record_idle (coro : CoroState Child) (idle : state.coro.phase.isIdle) :
    (state.record coro !state.coro.phase.isIdle).answers = state.answers := by
  simp [record, idle]

end Awaiting

theorem Turn.of_effect [DecidableEq Child] (polls : move.pollsNothing)
    (effect : Effect kind state.coro move coro) :
    Turn kind state (state.record coro !state.coro.phase.isIdle) := by
  cases effect with
  | children status handles =>
    exact .children status handles state.coro.pending state.coro.dropped rfl
      (Awaiting.record_awaitable _ (.inl rfl)) (Awaiting.record_answers rfl)
  | closed handle =>
    rcases state.coro.close_eq handle with ⟨status, handles, pending, dropped, _, _, closed⟩
    rw [closed]
    exact .children status handles pending dropped rfl
      (Awaiting.record_awaitable _ (.inl rfl)) (Awaiting.record_answers rfl)
  | cancelled idle =>
    exact .cancelled idle rfl (Awaiting.record_awaitable _ (.inl rfl))
      (Awaiting.record_idle _ idle)
  | polled | repolled | awaited => cases polls
  | abandoned idle =>
    exact .destructor idle (.inl rfl) rfl (Awaiting.record_awaitable _ (.inr nofun))
      (Awaiting.record_idle _ idle)
  | destructed idle =>
    exact .destructor idle (.inr rfl) rfl (Awaiting.record_awaitable _ (.inr nofun))
      (Awaiting.record_idle _ idle)
  | cancelReturned phase =>
    rw [phase]
    exact .cancelReturned phase
  | destroyed reason phase =>
    rw [phase]
    exact .destroyed reason phase
  | swept again goal phase =>
    rw [phase]
    exact .swept again goal phase
  | yielded phase =>
    rw [phase]
    exact .yielded phase
  | completed failed finalValue phase =>
    rw [phase]
    exact .completed failed finalValue phase

theorem turn [DecidableEq Child] (step : state.step kind move = some next) :
    (∃ coroMove, Effect kind state.coro coroMove next.coro) ∧ Turn kind state next ∧
      next.destructions = state.destructions + state.coro.destroysIn next.coro ∧
      next.registered =
        state.registered ++ next.coro.pending.drop state.coro.pending.length := by
  have counted (coro : CoroState Child) (polling : Bool) :
      (state.record coro polling).destructions =
        state.destructions + state.coro.destroysIn coro := by
    simp only [Awaiting.record, CoroState.destroysIn]
    split <;> rfl
  cases move with
  | poll =>
    rcases Option.map_eq_some_iff.mp step with ⟨coro, made, same⟩
    subst same
    refine ⟨⟨_, effect made⟩, ?_, counted coro true, rfl⟩
    rcases of_guard made with ⟨idle, rfl⟩
    exact .polled idle
  | await cancellable budget =>
    rcases Option.map_eq_some_iff.mp step with ⟨coro, made, same⟩
    subst same
    refine ⟨⟨_, effect made⟩, ?_, counted coro true, rfl⟩
    rcases of_guard made with ⟨phase, rfl⟩
    exact .awaited cancellable budget phase
  | repoll budget pending =>
    simp only [Awaiting.step] at step
    split at step
    · rename_i awaitable found
      rcases Option.map_eq_some_iff.mp step with ⟨coro, made, same⟩
      subst same
      refine ⟨⟨_, effect made⟩, ?_, counted coro true, rfl⟩
      rcases of_guard made with ⟨phase, rfl⟩
      exact .repolled budget pending phase found
    · cases step
  | other move =>
    rcases Option.ite_none_right_eq_some.mp step with ⟨polls, stepped⟩
    rcases Option.map_eq_some_iff.mp stepped with ⟨coro, made, same⟩
    subst same
    exact ⟨⟨move, effect made⟩, .of_effect polls (effect made), counted coro _, rfl⟩

/-! ## Up to the `cancel()` -/

/-- The hooks of the promise lead to the future of the last `co_await`, which has not
been cancelled and was still pending. -/
structure Hooked (state : Awaiting Child) : Prop where
  hooked : state.coro.pollCurrent → ∃ awaitable, state.awaitable = some awaitable ∧
    state.coro.cancelCurrent = awaitable.cancellable ∧ awaitable.cancels = 0 ∧
    awaitable.resolved = false
  unhooked : state.coro.pollCurrent = false → state.coro.cancelCurrent = false

structure Uncancelled (state : Awaiting Child) : Prop extends Hooked state where
  running : state.coro.cancelled = false
  undrained : state.coro.cancelDraining = false
  silent : state.answers = []
  outside : state.coro.phase ≠ .cancelling
  resumed : state.coro.phase = .resumed → state.coro.pollCurrent = false

/-- What a step of the coroutine can do to the control that a `cancel()` reads. -/
structure Steady (state next : CoroState Child) : Prop where
  cancelled : next.cancelled = state.cancelled
  draining : next.cancelDraining = state.cancelDraining
  pollCurrent : next.pollCurrent = state.pollCurrent
  cancelCurrent : next.cancelCurrent = state.cancelCurrent
  phase : next.phase ≠ .cancelling
  resumed : next.phase = .resumed → state.pollCurrent = false

section Steady

variable {state : CoroState Child}

theorem Steady.of_same {next : CoroState Child} (steady : Steady changed next)
    (cancelled : changed.cancelled = state.cancelled)
    (draining : changed.cancelDraining = state.cancelDraining)
    (pollCurrent : changed.pollCurrent = state.pollCurrent)
    (cancelCurrent : changed.cancelCurrent = state.cancelCurrent) : Steady state next where
  cancelled := steady.cancelled.trans cancelled
  draining := steady.draining.trans draining
  pollCurrent := steady.pollCurrent.trans pollCurrent
  cancelCurrent := steady.cancelCurrent.trans cancelCurrent
  phase := steady.phase
  resumed := fun resumed => pollCurrent.symm.trans (steady.resumed resumed)

theorem CoroState.drained_steady (goal : Goal) : Steady state (state.drained kind goal) := by
  unfold CoroState.drained
  split
  · exact ⟨rfl, rfl, rfl, rfl, nofun, nofun⟩
  · exact ⟨rfl, rfl, rfl, rfl, nofun, nofun⟩
  · split <;> exact ⟨rfl, rfl, rfl, rfl, nofun, nofun⟩

theorem CoroState.drain_steady (goal : Goal) : Steady state (state.drain kind goal) := by
  unfold CoroState.drain
  split
  · exact drained_steady goal
  · exact ⟨rfl, rfl, rfl, rfl, nofun, nofun⟩

theorem CoroState.sweep_steady (again : Bool) (goal : Goal) :
    Steady state (state.sweep kind again goal) := by
  unfold CoroState.sweep
  split
  · exact (drained_steady goal).of_same rfl rfl rfl rfl
  · split <;> exact ⟨rfl, rfl, rfl, rfl, nofun, nofun⟩

theorem CoroState.finish_steady : Steady state (state.finish kind) := by
  unfold CoroState.finish
  split
  · exact ⟨rfl, rfl, rfl, rfl, nofun, nofun⟩
  · exact drain_steady .completed

theorem CoroState.poll_steady (running : state.cancelled = false) :
    Steady state (state.poll kind) := by
  unfold CoroState.poll
  split
  · simp_all
  · simp_all
  · exact ⟨rfl, rfl, rfl, rfl, nofun, nofun⟩
  · exact finish_steady
  · cases hooked : state.pollCurrent <;>
      exact ⟨rfl, rfl, by simp [hooked], rfl, by simp, by simp [hooked]⟩

theorem CoroState.destroyReturns_steady (reason : Teardown) :
    Steady state (state.destroyReturns kind reason) := by
  cases reason with
  | cancelled =>
    simp only [CoroState.destroyReturns, CoroState.drain_dropped]
    split <;> exact ⟨rfl, rfl, rfl, rfl, by simp, by simp⟩
  | destructor =>
    simp only [CoroState.destroyReturns]
    exact ⟨rfl, rfl, rfl, rfl, by simp, by simp⟩
  | completed =>
    simp only [CoroState.destroyReturns]
    split <;> exact ⟨rfl, rfl, rfl, rfl, by simp [CoroState.give], by simp [CoroState.give]⟩

end Steady

theorem CoroState.answer_of_uncancelled {state : CoroState Child}
    (running : state.cancelled = false) : state.answer = [] := by
  simp [CoroState.answer, running]

namespace Uncancelled

variable (uncancelled : Uncancelled state)

include uncancelled

theorem of_steady (steady : Steady state.coro next.coro)
    (awaitable : next.awaitable = state.awaitable) (silent : next.answers = []) :
    Uncancelled next := by
  constructor
  · constructor
    · intro hooked
      rw [awaitable]
      rcases uncancelled.hooked (steady.pollCurrent.symm.trans hooked) with
        ⟨awaitable, found, cancels, rest⟩
      exact ⟨awaitable, found, steady.cancelCurrent.trans cancels, rest⟩
    · intro unhooked
      exact steady.cancelCurrent.trans
        (uncancelled.unhooked (steady.pollCurrent.symm.trans unhooked))
  · exact steady.cancelled.trans uncancelled.running
  · exact steady.draining.trans uncancelled.undrained
  · exact silent
  · exact steady.phase
  · intro resumed
    exact steady.pollCurrent.trans (steady.resumed resumed)

theorem record {coro : CoroState Child}
    (steady : Steady state.coro coro) : Uncancelled (state.record coro true) := by
  refine uncancelled.of_steady steady (Awaiting.record_awaitable true (.inr steady.phase)) ?_
  have running : coro.cancelled = false := steady.cancelled.trans uncancelled.running
  simp [Awaiting.record, uncancelled.silent, CoroState.answer_of_uncancelled running]

theorem repolled (budget pending : Bool) (found : state.awaitable = some awaitable) :
    Uncancelled { state.record
      (state.coro.repollReturns kind (awaitable.poll budget pending).2) true with
      awaitable := some (awaitable.poll budget pending).1 } := by
  have running := uncancelled.running
  have hooked := uncancelled.hooked
  rw [found] at hooked
  cases ready : (awaitable.poll budget pending).2 with
  | true =>
    simp only [CoroState.repollReturns, running, Bool.not_true, Bool.false_eq_true, if_false]
    constructor
    · exact ⟨by simp [Awaiting.record], fun _ => rfl⟩
    · rfl
    · exact uncancelled.undrained
    · simp [Awaiting.record, uncancelled.silent, CoroState.answer]
    · simp [Awaiting.record]
    · exact fun _ => rfl
  | false =>
    simp only [CoroState.repollReturns, Bool.not_false, if_true]
    constructor
    · refine ⟨fun set => ⟨_, rfl, ?_⟩, uncancelled.unhooked⟩
      rcases hooked set with ⟨_, same, cancels, none, unresolved⟩
      cases same
      unfold FutureAwaitable.poll at ready ⊢
      split
      · exact ⟨cancels, none, unresolved⟩
      · simp_all [CoroState.give, Awaiting.record]
    · exact running
    · exact uncancelled.undrained
    · simp [Awaiting.record, uncancelled.silent, CoroState.answer, CoroState.give, running]
    · simp [Awaiting.record, CoroState.give]
    · simp [Awaiting.record, CoroState.give]

theorem awaited (cancellable budget : Bool)
    (phase : state.coro.phase = .resumed) :
    Uncancelled { state.record ({ state.coro with
        pollCurrent := true
        cancelCurrent := state.coro.cancelCurrent || cancellable }.drain kind .suspended) true with
      awaitable := some (.awaitReady cancellable budget) } := by
  have steady : Steady { state.coro with
      pollCurrent := true
      cancelCurrent := state.coro.cancelCurrent || cancellable } (CoroState.drain { state.coro with
      pollCurrent := true
      cancelCurrent := state.coro.cancelCurrent || cancellable } kind .suspended) :=
    CoroState.drain_steady .suspended
  have running := steady.cancelled.trans uncancelled.running
  have unhooked := uncancelled.unhooked (uncancelled.resumed phase)
  constructor
  · refine ⟨fun _ => ⟨_, rfl, steady.cancelCurrent.trans ?_, rfl, rfl⟩, fun unset => ?_⟩
    · simp [unhooked, FutureAwaitable.awaitReady]
    · exact absurd (steady.pollCurrent.symm.trans unset) (by simp)
  · exact running
  · exact steady.draining.trans uncancelled.undrained
  · simp [Awaiting.record, uncancelled.silent, CoroState.answer_of_uncancelled running]
  · exact steady.phase
  · intro resumed
    exact absurd (steady.resumed resumed) (by simp)

end Uncancelled

/-! ## From the `cancel()` on -/

/-- The future that was awaited needs no more polls: a `Cancellable` one has been
cancelled and has resolved since, and a leaf was left alone. -/
def AwaitedOver (before state : Awaiting Child) : Prop :=
  ∀ awaited ∈ before.suspendedAt, ∃ later, state.awaitable = some later ∧
    (awaited.cancellable → later.cancels = 1 ∧ later.resolved) ∧
    (awaited.cancellable = false → later.polls = awaited.polls)

/-- As far as the cancellation has come when the object is destroyed. -/
def AwaitedLeft (before state : Awaiting Child) : Prop :=
  ∀ awaited ∈ before.suspendedAt, ∃ later, state.awaitable = some later ∧
    (awaited.cancellable → later.cancels ≤ 1 ∧ (state.answers ≠ [] → later.cancels = 1)) ∧
    (awaited.cancellable = false → later.polls = awaited.polls)

/-- How far a coroutine has come that was cancelled in the state `before`. -/
inductive Stage (before state : Awaiting Child) : Prop
  | unpolled (idle : state.coro.phase.isIdle) (live : state.coro.frame = .live)
      (undrained : state.coro.cancelDraining = false) (silent : state.answers = [])
      (suspended : state.suspendedAt = before.suspendedAt) (hooked : Hooked state)
  | cancelling {awaited later : FutureAwaitable} (suspended : before.suspendedAt = some awaited)
      (cancellable : awaited.cancellable) (phase : state.coro.phase = .cancelling)
      (hooked : state.coro.pollCurrent) (found : state.awaitable = some later)
      (cancels : later.cancels = 1)
  | draining {awaited later : FutureAwaitable} (suspended : before.suspendedAt = some awaited)
      (cancellable : awaited.cancellable)
      (phase : state.coro.phase = .repolling ∨ state.coro.phase = .returned .pending)
      (live : state.coro.frame = .live) (draining : state.coro.cancelDraining)
      (hooked : state.coro.pollCurrent) (found : state.awaitable = some later)
      (cancels : later.cancels = 1)
  | destroying (phase : state.coro.phase = .destroying .cancelled)
      (past : AwaitedOver before state)
  | finished
      (phase : state.coro.phase.isIdle ∨ ∃ again, state.coro.phase = .draining again .dropped)
      (unfit : state.coro.frame ≠ .live)
      (destroyed : before.coro.frame = .live → state.coro.frame = .destroyed)
      (past : AwaitedOver before state)
  | destructed (phase : state.coro.phase = .gone ∨ state.coro.phase = .destroying .destructor)
      (left : AwaitedLeft before state)

structure Cancelling (before state : Awaiting Child) : Prop where
  cancelled : state.coro.cancelled
  stage : Stage before state
  answers : ∀ outcome ∈ state.answers, outcome = .pending ∨ outcome = .dropped

theorem AwaitedOver.left (past : AwaitedOver before state) : AwaitedLeft before state := by
  intro awaited suspended
  rcases past awaited suspended with ⟨later, found, cancelled, leaf⟩
  refine ⟨later, found, fun cancellable => ?_, leaf⟩
  have once := (cancelled cancellable).1
  exact ⟨Nat.le_of_eq once, fun _ => once⟩

namespace Stage

variable {before : Awaiting Child}

theorem of_children (stage : Stage before state) {status handles pending dropped cancelled}
    (coro : next.coro = { state.coro with
      status := status, handles := handles, pending := pending, dropped := dropped,
      cancelled := cancelled })
    (awaitable : next.awaitable = state.awaitable) (answers : next.answers = state.answers) :
    Stage before next := by
  rcases next with ⟨after, future, destructions, registered, outcomes⟩
  simp only at coro awaitable answers
  subst coro awaitable answers
  cases stage with
  | unpolled idle live undrained silent suspended hooked =>
    exact .unpolled idle live undrained silent suspended ⟨hooked.1, hooked.2⟩
  | cancelling suspended cancellable phase hooked found cancels =>
    exact .cancelling suspended cancellable phase hooked found cancels
  | draining suspended cancellable phase live draining hooked found cancels =>
    exact .draining suspended cancellable phase live draining hooked found cancels
  | destroying phase past => exact .destroying phase past
  | finished phase unfit destroyed past => exact .finished phase unfit destroyed past
  | destructed phase left => exact .destructed phase left

theorem awaitedLeft_of_cancelled (suspended : before.suspendedAt = some awaited)
    (cancellable : awaited.cancellable) (found : state.awaitable = some later)
    (cancels : later.cancels = 1) : AwaitedLeft before state := by
  intro other member
  rw [suspended] at member
  cases member
  refine ⟨later, found, fun _ => ⟨Nat.le_of_eq cancels, fun _ => cancels⟩, fun leaf => ?_⟩
  rw [cancellable] at leaf
  cases leaf

theorem awaited_of_unpolled (hooked : Hooked state) (member : awaited ∈ state.suspendedAt) :
    state.coro.pollCurrent ∧ state.awaitable = some awaited ∧
      state.coro.cancelCurrent = awaited.cancellable ∧ awaited.cancels = 0 := by
  rcases Option.ite_none_right_eq_some.mp member with ⟨⟨_, set⟩, same⟩
  rcases hooked.hooked set with ⟨later, found, cancels, none, _⟩
  rw [found] at same
  cases same
  exact ⟨set, found, cancels, none⟩

theorem awaitedLeft (stage : Stage before state) : AwaitedLeft before state := by
  cases stage with
  | unpolled idle live undrained silent suspended hooked =>
    intro awaited member
    rw [← suspended] at member
    rcases awaited_of_unpolled hooked member with ⟨_, found, _, none⟩
    exact ⟨awaited, found, fun _ => ⟨by omega, fun answered => absurd silent answered⟩,
      fun _ => rfl⟩
  | cancelling suspended cancellable phase hooked found cancels
  | draining suspended cancellable phase live draining hooked found cancels =>
    exact awaitedLeft_of_cancelled suspended cancellable found cancels
  | destroying phase past => exact past.left
  | finished phase unfit destroyed past => exact past.left
  | destructed phase left => exact left

theorem not_resumed (stage : Stage before state) : state.coro.phase ≠ .resumed := by
  intro resumed
  cases stage <;> simp_all [Phase.isIdle]

end Stage

namespace Cancelling

variable {before : Awaiting Child}

variable (cancelling : Cancelling before state)

include cancelling

theorem record_answers
    (answer : ∀ outcome, coro.phase = .returned outcome → outcome = .pending ∨ outcome = .dropped) :
    ∀ outcome ∈ (state.record coro true).answers, outcome = .pending ∨ outcome = .dropped := by
  intro outcome member
  rcases List.mem_append.mp member with earlier | last
  · exact cancelling.answers outcome earlier
  · simp only [if_true, CoroState.answer] at last
    split at last
    · rename_i returned
      rw [List.mem_singleton.mp last]
      exact answer _ returned
    · cases last

theorem polled_unpolled (idle : state.coro.phase.isIdle) (live : state.coro.frame = .live)
    (undrained : state.coro.cancelDraining = false)
    (suspended : state.suspendedAt = before.suspendedAt) (hooked : Hooked state) :
    Cancelling before (state.record (state.coro.poll kind) true) := by
  have cancelled := cancelling.cancelled
  cases cancels : state.coro.cancelCurrent with
  | true =>
    have polled : state.coro.poll kind = { state.coro with phase := .cancelling } := by
      simp [CoroState.poll, cancelled, live, undrained, cancels]
    have set : state.coro.pollCurrent := by
      cases unset : state.coro.pollCurrent with
      | true => rfl
      | false => exact absurd cancels (by simp [hooked.unhooked unset])
    rcases hooked.hooked set with ⟨awaited, found, same, none, _⟩
    rw [polled]
    refine ⟨cancelled, ?_, cancelling.record_answers nofun⟩
    have entered : state.coro.phase ≠ .cancelling := by
      intro phase
      rw [phase] at idle
      cases idle
    have cancellable : awaited.cancellable := same.symm.trans cancels
    refine .cancelling ?_ cancellable rfl set ((if_pos ⟨rfl, entered⟩).trans
      (congrArg (Option.map FutureAwaitable.cancel) found)) ?_
    · rw [← suspended, Awaiting.suspendedAt, if_pos ⟨live, set⟩, found]
    · simp [FutureAwaitable.cancel, cancellable, none]
  | false =>
    have polled : state.coro.poll kind = { state.coro with
        phase := .destroying .cancelled } := by
      simp [CoroState.poll, CoroState.drainAwaited, cancelled, live, undrained, cancels]
    rw [polled]
    refine ⟨cancelled, .destroying rfl ?_, cancelling.record_answers nofun⟩
    intro awaited member
    rw [← suspended] at member
    rcases Stage.awaited_of_unpolled hooked member with ⟨_, found, same, _⟩
    refine ⟨awaited, ?_, fun cancellable => ?_, fun _ => rfl⟩
    · exact (Awaiting.record_awaitable true (.inr (by simp))).trans found
    · rw [cancels, cancellable] at same
      cases same

theorem drain_dropped {coro : CoroState Child}
    (cancelled : coro.cancelled) (unfit : coro.frame ≠ .live)
    (destroyed : before.coro.frame = .live → coro.frame = .destroyed)
    (past : AwaitedOver before state) :
    Cancelling before (state.record (coro.drain kind .dropped) true) := by
  have steady : Steady coro (coro.drain kind .dropped) := CoroState.drain_steady .dropped
  have kept : (state.record (coro.drain kind .dropped) true).awaitable = state.awaitable :=
    Awaiting.record_awaitable true (.inr steady.phase)
  rw [CoroState.drain_dropped] at kept ⊢
  refine ⟨cancelled, .finished ?_ unfit destroyed ?_, cancelling.record_answers ?_⟩
  · simp only [Awaiting.record]
    split
    · exact .inl rfl
    · exact .inr ⟨false, rfl⟩
  · simpa only [AwaitedOver, kept] using past
  · intro outcome returned
    simp only at returned
    split at returned <;> cases returned
    exact .inr rfl

theorem polled (idle : state.coro.phase.isIdle) :
    Cancelling before (state.record (state.coro.poll kind) true) := by
  have cancelled := cancelling.cancelled
  cases cancelling.stage with
  | unpolled _ live undrained silent suspended hooked =>
    exact cancelling.polled_unpolled idle live undrained suspended hooked
  | cancelling suspended cancellable phase | destroying phase => simp [phase, Phase.isIdle] at idle
  | draining suspended cancellable phase live draining hooked found cancels =>
    have polled : state.coro.poll kind = { state.coro with phase := .repolling } := by
      simp [CoroState.poll, CoroState.drainAwaited, cancelled, live, draining, hooked]
    rw [polled]
    refine ⟨cancelled, .draining suspended cancellable (.inl rfl) live draining hooked ?_ cancels,
      cancelling.record_answers nofun⟩
    exact (Awaiting.record_awaitable true (.inr (by simp))).trans found
  | finished phase unfit destroyed past =>
    have polled : state.coro.poll kind = state.coro.drain kind .dropped := by
      unfold CoroState.poll
      split <;> simp_all
    rw [polled]
    exact cancelling.drain_dropped cancelled unfit destroyed past
  | destructed phase =>
    rcases phase with phase | phase <;> simp [phase, Phase.isIdle] at idle

theorem cancelReturned
    (phase : state.coro.phase = .cancelling) (fits : state.coro.phase.Fits state.coro.frame) :
    Cancelling before (state.record (state.coro.cancelReturns kind) true) := by
  cases cancelling.stage with
  | cancelling suspended cancellable _ hooked found cancels =>
    rw [phase] at fits
    have returned : state.coro.cancelReturns kind = { state.coro with
        cancelCurrent := if kind = Kind.coro then state.coro.cancelCurrent else false
        cancelDraining := true
        phase := .repolling } := by
      simp [CoroState.cancelReturns, CoroState.drainAwaited, hooked]
    rw [returned]
    refine ⟨cancelling.cancelled, ?_, cancelling.record_answers (by simp)⟩
    refine .draining suspended cancellable (.inl rfl) fits rfl hooked ?_ cancels
    exact (Awaiting.record_awaitable true (.inr (by simp))).trans found
  | _ => simp_all [Phase.isIdle]

theorem repolled (budget pending : Bool) (phase : state.coro.phase = .repolling)
    (found : state.awaitable = some awaitable) :
    Cancelling before { state.record
      (state.coro.repollReturns kind (awaitable.poll budget pending).2) true with
      awaitable := some (awaitable.poll budget pending).1 } := by
  have cancelled := cancelling.cancelled
  have kept : (awaitable.poll budget pending).1.cancels = awaitable.cancels := by
    unfold FutureAwaitable.poll
    split <;> rfl
  have resolves : (awaitable.poll budget pending).2 →
      (awaitable.poll budget pending).1.resolved := by
    unfold FutureAwaitable.poll
    split
    · nofun
    · exact id
  cases cancelling.stage with
  | draining suspended cancellable _ live draining hooked same cancels =>
    rw [found] at same
    cases same
    cases ready : (awaitable.poll budget pending).2 with
    | true =>
      simp only [CoroState.repollReturns, cancelled, Bool.not_true, Bool.false_eq_true,
        if_false, if_true]
      refine ⟨cancelled, .destroying rfl ?_, cancelling.record_answers nofun⟩
      intro awaited member
      rw [suspended] at member
      cases member
      refine ⟨_, rfl, fun _ => ⟨kept.trans cancels, resolves ready⟩, fun leaf => ?_⟩
      rw [cancellable] at leaf
      cases leaf
    | false =>
      simp only [CoroState.repollReturns, Bool.not_false, if_true]
      refine ⟨cancelled, ?_, cancelling.record_answers ?_⟩
      · exact .draining suspended cancellable (.inr rfl) live draining hooked rfl
          (kept.trans cancels)
      · intro outcome returned
        cases returned
        exact .inl rfl
  | _ => simp_all [Phase.isIdle]

theorem destroyed {reason : Teardown}
    (phase : state.coro.phase = .destroying reason) :
    Cancelling before (state.record (state.coro.destroyReturns kind reason) true) := by
  cases cancelling.stage with
  | destroying same past =>
    rw [phase] at same
    cases same
    exact cancelling.drain_dropped cancelling.cancelled nofun (fun _ => rfl) past
  | destructed gone left =>
    rw [phase] at gone
    rcases gone with same | same <;> cases same
    refine ⟨cancelling.cancelled, .destructed (.inl rfl) ?_, cancelling.record_answers nofun⟩
    simpa [AwaitedLeft, Awaiting.record, CoroState.destroyReturns, CoroState.answer] using left
  | _ => simp_all [Phase.isIdle]

theorem swept (phase : state.coro.phase = .draining again goal) :
    Cancelling before (state.record (state.coro.sweep kind again goal) true) := by
  cases cancelling.stage with
  | finished draining unfit destroyed past =>
    rcases draining with idle | ⟨_, same⟩
    · simp [phase, Phase.isIdle] at idle
    rw [phase] at same
    cases same
    have steady : Steady state.coro (state.coro.sweep kind again .dropped) :=
      CoroState.sweep_steady again .dropped
    have past :
        AwaitedOver before (state.record (state.coro.sweep kind again .dropped) true) := by
      simpa only [AwaitedOver, Awaiting.record_awaitable true (.inr steady.phase)] using past
    revert past
    unfold CoroState.sweep
    split
    · intro past
      refine ⟨cancelling.cancelled, .finished (.inl rfl) unfit destroyed past, ?_⟩
      exact cancelling.record_answers fun outcome returned => by cases returned; exact .inr rfl
    · split
      · intro past
        refine ⟨cancelling.cancelled, .finished (.inl rfl) unfit destroyed past, ?_⟩
        exact cancelling.record_answers fun outcome returned => by cases returned; exact .inl rfl
      · intro past
        refine ⟨cancelling.cancelled, .finished (.inr ⟨true, rfl⟩) unfit destroyed past, ?_⟩
        exact cancelling.record_answers nofun
  | _ => simp_all [Phase.isIdle]

theorem step (turn : Turn kind state next)
    (fits : state.coro.phase.Fits state.coro.frame) : Cancelling before next := by
  have notResumed := cancelling.stage.not_resumed
  cases turn with
  | children status handles pending dropped coro awaitable answers =>
    refine ⟨?_, cancelling.stage.of_children coro awaitable answers, ?_⟩
    · rw [coro]
      exact cancelling.cancelled
    · rw [answers]
      exact cancelling.answers
  | cancelled idle coro awaitable answers =>
    refine ⟨?_, cancelling.stage.of_children coro awaitable answers, ?_⟩
    · rw [coro]
    · rw [answers]
      exact cancelling.answers
  | polled idle => exact cancelling.polled idle
  | destructor idle leaves coro awaitable answers =>
    refine ⟨?_, .destructed ?_ ?_, ?_⟩
    · rw [coro]
      exact cancelling.cancelled
    · rw [coro]
      exact leaves
    · have left := cancelling.stage.awaitedLeft
      simpa only [AwaitedLeft, awaitable, answers] using left
    · rw [answers]
      exact cancelling.answers
  | cancelReturned phase => exact cancelling.cancelReturned phase fits
  | repolled budget pending phase found =>
    exact cancelling.repolled budget pending phase found
  | destroyed reason phase => exact cancelling.destroyed phase
  | swept again goal phase => exact cancelling.swept phase
  | awaited _ _ phase | yielded phase | completed _ _ phase => exact absurd phase notResumed

end Cancelling

theorem Uncancelled.cancelled (uncancelled : Uncancelled state)
    (idle : state.coro.phase.isIdle)
    (coro : next.coro = { state.coro with cancelled := true })
    (awaitable : next.awaitable = state.awaitable) (answers : next.answers = state.answers) :
    Cancelling state next := by
  rcases next with ⟨after, future, destructions, registered, outcomes⟩
  simp only at coro awaitable answers
  subst coro awaitable answers
  have silent := uncancelled.silent
  refine ⟨rfl, ?_, by simp [silent]⟩
  by_cases live : state.coro.frame = .live
  · exact .unpolled idle live uncancelled.undrained silent rfl
      ⟨uncancelled.hooked, uncancelled.unhooked⟩
  · refine .finished (.inl idle) live (fun was => absurd was live) ?_
    intro awaited member
    exact absurd (Option.ite_none_right_eq_some.mp member).1.1 live

theorem Uncancelled.step (uncancelled : Uncancelled state) (turn : Turn kind state next) :
    Cancelling state next ∨ Uncancelled next := by
  cases turn with
  | children status handles pending dropped coro awaitable answers =>
    refine .inr (uncancelled.of_steady ?_ awaitable (answers.trans uncancelled.silent))
    rw [coro]
    exact ⟨rfl, rfl, rfl, rfl, uncancelled.outside, uncancelled.resumed⟩
  | cancelled idle coro awaitable answers =>
    exact .inl (uncancelled.cancelled idle coro awaitable answers)
  | polled => exact .inr (uncancelled.record (CoroState.poll_steady uncancelled.running))
  | destructor idle leaves coro awaitable answers =>
    refine .inr (uncancelled.of_steady ?_ awaitable (answers.trans uncancelled.silent))
    rw [coro]
    rcases leaves with same | same <;> subst same <;>
      exact ⟨rfl, rfl, rfl, rfl, nofun, nofun⟩
  | cancelReturned phase => exact absurd phase uncancelled.outside
  | repolled budget pending _ found => exact .inr (uncancelled.repolled budget pending found)
  | destroyed reason =>
    exact .inr (uncancelled.record (CoroState.destroyReturns_steady reason))
  | swept again goal => exact .inr (uncancelled.record (CoroState.sweep_steady again goal))
  | awaited cancellable budget phase =>
    exact .inr (uncancelled.awaited cancellable budget phase)
  | yielded => exact .inr (uncancelled.record ⟨rfl, rfl, rfl, rfl, nofun, nofun⟩)
  | completed =>
    exact .inr (uncancelled.record (CoroState.finish_steady.of_same rfl rfl rfl rfl))

/-! ## The protocol -/

structure Lasting (state : Awaiting Child) : Prop where
  fits : state.coro.phase.Fits state.coro.frame
  destructions : state.destructions = state.coro.destructions
  tracked : Tracked state.registered state.coro.pending state.coro.isDone
  empty : state.coro.Empty

theorem Lasting.step [DecidableEq Child] (lasting : Lasting state)
    (step : state.step kind move = some next) : Lasting next := by
  rcases turn step with ⟨⟨coroMove, effect⟩, _, destructions, registered⟩
  constructor
  · exact lasting.fits.step effect
  · rw [destructions, lasting.destructions, effect.destructions lasting.fits]
  · rcases effect.scope with ⟨change, keeps⟩
    rw [registered]
    cases change with
    | kept pending =>
      rw [pending, List.drop_length, List.append_nil]
      exact lasting.tracked.later keeps
    | registered child pending =>
      rw [pending, List.drop_left]
      exact (lasting.tracked.register child).later keeps
    | swept pending =>
      rw [pending, List.drop_eq_nil_of_le (List.length_filter_le _ _), List.append_nil]
      exact lasting.tracked.sweep.later keeps
  · exact lasting.empty.step effect

/-- What has happened in `after` to a coroutine that was cancelled in `before`. -/
structure CancellationProtocol (before after : Awaiting Child) : Prop where
  notResumed : after.coro.phase ≠ .resumed
  /-- Once a poll has returned, a `Cancellable` future has been cancelled. -/
  cancelledOnce : ∀ awaited ∈ before.suspendedAt, awaited.cancellable →
    ∃ later, after.awaitable = some later ∧ later.cancels ≤ 1 ∧
      (after.answers ≠ [] → later.cancels = 1)
  /-- The destructor of the coroutine object does not wait. -/
  awaitedFirst : ∀ awaited ∈ before.suspendedAt, awaited.cancellable →
    0 < after.destructions →
      after.coro.phase = .gone ∨ after.coro.phase = .destroying .destructor ∨
      ∃ later, after.awaitable = some later ∧ later.resolved
  leafLeft : ∀ awaited ∈ before.suspendedAt, awaited.cancellable = false →
    ∃ later, after.awaitable = some later ∧ later.polls = awaited.polls
  destroyedOnce : after.destructions ≤ 1 ∧ (after.coro.phase = .gone → after.destructions = 1)
  answers : ∀ outcome ∈ after.answers, outcome = .pending ∨ outcome = .dropped
  dropped : after.answers ≠ [] → after.coro.phase = .returned .dropped →
    (before.coro.frame = .live → after.coro.frame = .destroyed) ∧
    ∀ child ∈ after.registered, after.coro.isDone child

theorem CoroState.destructions_of_live {coro : CoroState Child} (live : coro.frame = .live)
    (outside : coro.phase.isDestroying = false) : coro.destructions = 0 := by
  simp [CoroState.destructions, live, outside]

/-- The frame is destroyed after the awaited future is over, unless the destructor does
it. -/
theorem Stage.over_of_destroyed (stage : Stage before state) (lasting : Lasting state)
    (destroyed : 0 < state.destructions) :
    state.coro.phase = .gone ∨ state.coro.phase = .destroying .destructor ∨
      AwaitedOver before state := by
  have fits := lasting.fits
  rw [lasting.destructions] at destroyed
  cases stage with
  | unpolled idle live =>
    rw [CoroState.destructions_of_live live (Phase.isDestroying_of_isIdle idle)] at destroyed
    cases destroyed
  | cancelling _ _ phase =>
    rw [phase] at fits
    rw [CoroState.destructions_of_live fits (by rw [phase]; rfl)] at destroyed
    cases destroyed
  | draining _ _ phase live =>
    have outside : state.coro.phase.isDestroying = false := by
      rcases phase with phase | phase <;> rw [phase] <;> rfl
    rw [CoroState.destructions_of_live live outside] at destroyed
    cases destroyed
  | destroying _ past => exact .inr (.inr past)
  | finished _ _ _ past => exact .inr (.inr past)
  | destructed phase => exact phase.imp_right .inl

theorem Stage.destroyed_of_dropped (stage : Stage before state) (answered : state.answers ≠ [])
    (returned : state.coro.phase = .returned .dropped) :
    before.coro.frame = .live → state.coro.frame = .destroyed := by
  cases stage with
  | unpolled _ _ _ silent => exact absurd silent answered
  | finished _ _ destroyed => exact destroyed
  | _ => simp_all

theorem Cancelling.protocol (cancelling : Cancelling before state) (lasting : Lasting state) :
    CancellationProtocol before state := by
  have stage := cancelling.stage
  constructor
  · exact stage.not_resumed
  · intro awaited suspended cancellable
    rcases stage.awaitedLeft awaited suspended with ⟨later, found, cancels, _⟩
    exact ⟨later, found, cancels cancellable⟩
  · intro awaited suspended cancellable destroyed
    refine (stage.over_of_destroyed lasting destroyed).imp_right (Or.imp_right fun past => ?_)
    rcases past awaited suspended with ⟨later, found, cancels, _⟩
    exact ⟨later, found, (cancels cancellable).2⟩
  · intro awaited suspended leaf
    rcases stage.awaitedLeft awaited suspended with ⟨later, found, _, left⟩
    exact ⟨later, found, left leaf⟩
  · rw [lasting.destructions, CoroState.destructions]
    refine ⟨by split <;> omega, fun gone => ?_⟩
    have fits := lasting.fits
    rw [gone] at fits
    exact if_pos (.inl fits)
  · exact cancelling.answers
  · intro answered returned
    refine ⟨stage.destroyed_of_dropped answered returned, ?_⟩
    have tracked := lasting.tracked
    rw [lasting.empty returned] at tracked
    exact tracked.settled

section Runs

variable [DecidableEq Child] {parameters : List (Parameter Child)}

theorem Uncancelled.cancel (uncancelled : Uncancelled state)
    (step : state.step kind (.other .cancel) = some next) : Cancelling state next := by
  refine (uncancelled.step (turn step).2.1).resolve_right fun still => ?_
  simp only [Awaiting.step, Move.pollsNothing, if_true] at step
  rcases Option.map_eq_some_iff.mp step with ⟨coro, made, same⟩
  rcases of_guard made with ⟨_, rfl⟩
  subst same
  exact absurd still.running (by simp [Awaiting.record])

theorem lasting_of_reaches
    (reached : (awaitingMachine kind parameters).Reaches anyMove state) :
    Lasting state ∧ (Uncancelled state ∨ ∃ before, Cancelling before state) := by
  refine reached.invariant
    (fun state => Lasting state ∧ (Uncancelled state ∨ ∃ before, Cancelling before state)) ?_ ?_
  · intro state move next holds _ step
    refine ⟨holds.1.step step, ?_⟩
    have turn := (turn step).2.1
    rcases holds.2 with uncancelled | ⟨before, cancelling⟩
    · exact (uncancelled.step turn).symm.imp_right fun cancelling => ⟨state, cancelling⟩
    · exact .inr ⟨before, cancelling.step turn holds.1.fits⟩
  · refine ⟨⟨rfl, rfl, nofun, nofun⟩, .inl ⟨⟨nofun, fun _ => rfl⟩, rfl, rfl, rfl, nofun, nofun⟩⟩

theorem cancellation_protocol (kind : Kind) (parameters : List (Parameter Child))
    {before after : Awaiting Child} {moves : List (AwaitingMove Child)}
    (reached : (awaitingMachine kind parameters).Reaches anyMove before)
    (first : before.coro.cancelled = false)
    (path : (awaitingMachine kind parameters).Path anyMove before
      (.other .cancel :: moves) after) : CancellationProtocol before after := by
  rcases lasting_of_reaches reached with ⟨lasting, uncancelled | ⟨_, cancelling⟩⟩
  · cases path with
    | cons _ step rest =>
      have started : before.step kind (.other .cancel) = some _ := step
      have last := rest.invariant (fun state => Lasting state ∧ Cancelling before state)
        (fun state move next holds _ step =>
          ⟨holds.1.step step, holds.2.step (turn step).2.1 holds.1.fits⟩)
        ⟨lasting.step started, uncancelled.cancel started⟩
      exact last.2.protocol last.1
  · rw [cancelling.cancelled] at first
    cases first

/-- A coroutine is cancelled at a `co_await` that the task budget deferred, and its frame
holds a handle to a running child. -/
theorem cancellation_protocol_deferred :
    ∃ before after : Awaiting Nat,
      (awaitingMachine .coro []).Reaches anyMove before ∧
      before.suspendedAt = some (.awaitReady true false) ∧
      after.answers = [.pending, .pending, .dropped] ∧ after.registered = [0] ∧
      after.destructions = 1 ∧ CancellationProtocol before after := by
  have reached := (awaitingMachine .coro []).reaches_exec anyMove
    [.poll, .other (.spawn 0 .streamHandle .body false), .await true false] (by decide +kernel)
  refine ⟨_, _, reached, rfl, ?_, ?_, ?_, cancellation_protocol _ _ reached rfl
    ((awaitingMachine .coro []).path_run anyMove _
      [.other .cancel, .poll, .other .cancelReturns, .repoll false true, .poll,
        .repoll true false, .other (.close 0), .other .destroyReturns, .other .sweep,
        .other .sweep, .other (.terminate 0), .poll, .other .sweep] (by decide +kernel))⟩
  all_goals decide +kernel

end Runs

end CoroRuntime.Coroutine
