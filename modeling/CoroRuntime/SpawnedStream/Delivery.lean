import CoroRuntime.SpawnedStream.Task

/-! # What a spawned stream delivers

As long as the background task has not found itself cancelled, what the stream has yielded is
what the handle has returned, then what is in the queue, then the item that the task holds.
-/

namespace CoroRuntime.SpawnedStream

open Foundation

variable {T : Type u} {Error : Type v} {Waker : Type w} {config : Config}
  {state next : State T Error Waker}

def State.held (state : State T Error Waker) : List T :=
  match state.phase with
  | .pushing item => [item]
  | _ => state.pending.toList

/-- How the stream ended, if nobody cancelled it, from the exception in the queue. -/
def Outcome.ofException : Option Error → Outcome Error
  | none => .ended
  | some error => .failed error

/-- The stream has ended as the queue will say, or the task was cancelled and has drained it. -/
def State.EndsWith (config : Config) (state : State T Error Waker) (exception : Option Error) :
    Prop :=
  if state.seen then exception = none ∧ (config.hasCancel → state.outcome.isSome)
  else state.pending = none ∧ state.outcome = some (.ofException exception)

/-- What holds at each place in `poll`. -/
def Sound (config : Config) (state : State T Error Waker) : Prop :=
  match state.phase with
  | .idle | .checking => state.closed = false ∧ state.stream ∧
      (state.seen → state.cancelRequested ∧ state.pending = none)
  | .draining => state.closed = false ∧ state.stream ∧ state.seen ∧ state.cancelRequested ∧
      state.pending = none
  | .flushing => state.closed = false ∧ state.stream ∧ state.seen = false
  | .streaming | .pushing _ | .pushed _ | .undefined => state.closed = false ∧ state.stream ∧
      state.seen = false ∧ state.pending = none
  | .closing exception => state.closed = false ∧ state.stream ∧ state.EndsWith config exception
  | .closed _ | .finishing => state.closed ∧ state.stream ∧ state.EndsWith config state.exception
  | .done => state.closed ∧ state.EndsWith config state.exception

theorem State.call_phase [DecidableEq Waker] (state : State T Error Waker)
    (called : Option Waker) : (state.call called).phase = state.phase := by
  rw [State.call]
  split <;> rfl

structure Inv (config : Config) (state : State T Error Waker) : Prop where
  delivered : state.returned ++ state.buffer <+: state.yielded
  whole : state.seen = false → state.yielded = state.returned ++ state.buffer ++ state.held
  sound : Sound config state
  seen : state.seen → state.cancelled
  cancels : state.cancels = state.cancelRequested.toNat
  requested : state.cancelRequested → config.hasCancel ∧ state.seen

/-- What only the task writes. -/
def State.taskSide (state : State T Error Waker) :=
  (state.yielded, state.phase, state.pending, state.closed, state.exception, state.stream,
    state.seen, state.outcome, state.cancels, state.cancelRequested)

inductive Effect [DecidableEq Waker] (config : Config) (state : State T Error Waker) :
    Move T Error Waker → State T Error Waker → Prop
  | polled (phase : state.phase = .idle) :
      Effect config state .poll { state with notified := false, phase := .checking }
  | polledDone (phase : state.phase = .done) :
      Effect config state .poll { state with notified := false }
  | checked (phase : state.phase = .checking) : Effect config state .check (state.check config)
  | flushed {item} (phase : state.phase = .flushing) (pending : state.pending = some item) :
      Effect config state .flush (state.push config item)
  | pushed {item} (phase : state.phase = .pushing item) :
      Effect config state .push (state.push config item)
  | streamed {result} (phase : state.phase = .streaming) :
      Effect config state (.stream result) (state.produce result)
  | drained {result} (phase : state.phase = .draining) :
      Effect config state (.stream result) (state.drain result)
  | called {waker} (phase : state.phase = .pushed waker) :
      Effect config state .wakeConsumer { state.call waker with phase := .streaming }
  | calledLast {waker} (phase : state.phase = .closed waker) :
      Effect config state .wakeConsumer { state.call waker with phase := .finishing }
  | closed {exception} (phase : state.phase = .closing exception) :
      Effect config state .close { state with
        closed := true, exception, consumerWaker := none, phase := .closed state.consumerWaker }
  | finished (phase : state.phase = .finishing) :
      Effect config state .finish { state with
        stream := false, pending := none, terminated := true, phase := .done }
  | notified : Effect config state .notify { state with notified := true }
  | next {waker} (quiet : state.wakesProducer = false) :
      Effect config state (.next waker) (state.next waker).2
  | wokeProducer :
      Effect config state .wakeProducer { state with notified := true, wakesProducer := false }
  | cancelled :
      Effect config state .cancel { state with cancelled := true, wakesCancelled := true }
  | wokeCancelled :
      Effect config state .wakeCancelled { state with notified := true, wakesCancelled := false }
  | dropped : Effect config state .drop { state with
      handle := false, cancelled := true, wakesCancelled := true, consumer := .ready }

theorem effect_of_step [DecidableEq Waker] (stepped : step config state move = some next) :
    Effect config state move next := by
  cases move with
  | next waker =>
    rcases of_guard stepped with ⟨⟨-, quiet⟩, rfl⟩
    exact .next quiet
  | stream result =>
    simp only [step] at stepped
    split at stepped
    · rename_i phase
      cases stepped
      exact .streamed phase
    · rename_i phase
      cases stepped
      exact .drained phase
    · cases stepped
  | _ =>
    simp only [step] at stepped
    repeat' split at stepped
    all_goals cases stepped
    all_goals constructor
    all_goals assumption

namespace Inv

theorem initial : Inv config ({} : State T Error Waker) := by
  constructor <;> simp [State.held, Sound]

variable (inv : Inv config state)

include inv

theorem unseen (running : state.cancelled = false) : state.seen = false := by
  cases seen : state.seen with
  | false => rfl
  | true => exact nomatch running.symm.trans (inv.seen seen)

/-- The task stays where it is, and so does what the handle has returned and can return. -/
theorem frame (queue : next.returned ++ next.buffer = state.returned ++ state.buffer)
    (cancelled : state.cancelled → next.cancelled) (same : next.taskSide = state.taskSide) :
    Inv config next := by
  simp only [State.taskSide, Prod.mk.injEq] at same
  rcases same with ⟨yielded, phase, pending, closed, exception, stream, seen, outcome, cancels,
    requested⟩
  refine ⟨?_, ?_, ?_, fun found => cancelled (inv.seen (seen ▸ found)), ?_, ?_⟩
  · rw [queue, yielded]
    exact inv.delivered
  · rw [seen, yielded, queue, State.held, phase, pending]
    exact inv.whole
  · have sound := inv.sound
    simp only [Sound, State.EndsWith] at sound ⊢
    rwa [phase, closed, stream, seen, requested, pending, outcome, exception]
  · rw [cancels, requested]
    exact inv.cancels
  · rw [requested, seen]
    exact inv.requested

theorem poll (phase : state.phase = .idle) (notified : Bool) :
    Inv config { state with notified, phase := .checking } := by
  have sound := inv.sound
  have whole := inv.whole
  simp only [Sound, State.held, phase] at sound whole
  exact { inv with whole, sound }

theorem check (phase : state.phase = .checking) : Inv config (state.check config) := by
  have sound := inv.sound
  have whole := inv.whole
  simp only [Sound, State.held, phase] at sound whole
  rcases sound with ⟨isOpen, stream, drains⟩
  rw [State.check]
  split
  · rename_i cancelled
    split
    · rename_i cancels
      split
      · rename_i requested
        have seen := (inv.requested requested).2
        exact { inv with
          whole := nofun, seen := fun _ => cancelled, requested := fun _ => ⟨cancels, rfl⟩
          sound := ⟨isOpen, stream, rfl, requested, (drains seen).2⟩ }
      · rename_i unrequested
        exact { inv with
          whole := nofun, seen := fun _ => cancelled, requested := fun _ => ⟨cancels, rfl⟩
          cancels := by simp [inv.cancels, unrequested]
          sound := ⟨isOpen, stream, rfl, rfl, rfl⟩ }
    · rename_i leaf
      exact { inv with
        whole := nofun, seen := fun _ => cancelled
        requested := fun requested => ⟨(inv.requested requested).1, rfl⟩
        sound := ⟨isOpen, stream, rfl, fun cancels => absurd cancels leaf⟩ }
  · rename_i running
    have unseen := inv.unseen (Bool.eq_false_iff.mpr running)
    split
    · exact { inv with whole, sound := ⟨isOpen, stream, unseen⟩ }
    · rename_i nothing
      exact { inv with
        whole, sound := ⟨isOpen, stream, unseen, Option.not_isSome_iff_eq_none.mp nothing⟩ }

theorem push (held : state.held = [item]) (isOpen : state.closed = false) (stream : state.stream)
    (unseen : state.seen = false) : Inv config (state.push config item) := by
  have whole := inv.whole unseen
  rw [held] at whole
  rw [State.push]
  split
  · refine { inv with
      delivered := ?_, whole := fun _ => ?_, sound := ⟨isOpen, stream, unseen, rfl⟩ }
    · exact ⟨[], by simp [whole]⟩
    · simp [State.held, whole]
  · exact { inv with
      whole := fun _ => whole
      sound := ⟨isOpen, stream, fun seen => nomatch unseen.symm.trans seen⟩ }

theorem produce (phase : state.phase = .streaming) (result : StreamResult T Error) :
    Inv config (state.produce result) := by
  have sound := inv.sound
  simp only [Sound, phase] at sound
  rcases sound with ⟨isOpen, stream, unseen, nothing⟩
  have whole := inv.whole unseen
  simp only [State.held, phase, nothing, Option.toList_none, List.append_nil] at whole
  cases result with
  | pending =>
    refine { inv with
      whole := fun _ => ?_
      sound := ⟨isOpen, stream, fun seen => nomatch unseen.symm.trans seen⟩ }
    simp [State.produce, State.held, nothing, whole]
  | item item =>
    refine { inv with
      delivered := inv.delivered.trans (List.prefix_append _ _)
      whole := fun _ => ?_, sound := ⟨isOpen, stream, unseen, nothing⟩ }
    simp [State.produce, State.held, whole]
  | ended | error error =>
    refine { inv with whole := fun _ => ?_, sound := ⟨isOpen, stream, ?_⟩ }
    · simp [State.produce, State.finishStream, State.held, nothing, whole]
    · simp [State.produce, State.finishStream, State.EndsWith, unseen, nothing,
        Outcome.ofException]
  | dropped =>
    refine { inv with whole := fun _ => ?_, sound := ⟨isOpen, stream, unseen, nothing⟩ }
    simp [State.produce, State.held, nothing, whole]

theorem drain (phase : state.phase = .draining)
    (result : StreamResult T Error) : Inv config (state.drain result) := by
  have sound := inv.sound
  simp only [Sound, phase] at sound
  rcases sound with ⟨isOpen, stream, seen, requested, nothing⟩
  have unneeded : ∀ {claim : Prop}, state.seen = false → claim :=
    fun unseen => nomatch unseen.symm.trans seen
  cases result with
  | pending =>
    exact { inv with whole := unneeded, sound := ⟨isOpen, stream, fun _ => ⟨requested, nothing⟩⟩ }
  | item item =>
    exact { inv with
      delivered := inv.delivered.trans (List.prefix_append _ _)
      whole := unneeded
      sound := by simpa only [Sound, State.drain, phase] using inv.sound }
  | ended | error _ | dropped =>
    exact { inv with
      whole := unneeded
      sound := ⟨isOpen, stream, by simp [State.drain, State.finishStream, State.EndsWith, seen]⟩ }

theorem close (phase : state.phase = .closing exception) :
    Inv config { state with
      closed := true, exception, consumerWaker := none, phase := .closed state.consumerWaker } := by
  have sound := inv.sound
  have whole := inv.whole
  simp only [Sound, State.held, phase] at sound whole
  exact { inv with whole, sound := ⟨rfl, sound.2⟩ }

theorem finish (phase : state.phase = .finishing) :
    Inv config { state with
      stream := false, pending := none, terminated := true, phase := .done } := by
  have sound := inv.sound
  have whole := inv.whole
  simp only [Sound, State.held, phase] at sound whole
  rcases sound with ⟨closed, -, ends⟩
  rw [State.EndsWith] at ends
  split at ends
  · rename_i seen
    exact { inv with
      whole := fun unseen => nomatch unseen.symm.trans seen
      sound := ⟨closed, by simpa [State.EndsWith, seen] using ends⟩ }
  · rename_i notSeen
    have unseen := Bool.eq_false_iff.mpr notSeen
    refine { inv with whole := fun _ => ?_, sound := ⟨closed, ?_⟩ }
    · simp [State.held, whole unseen, ends.1]
    · simp [State.EndsWith, unseen, ends.2]

theorem goOnStreaming (phase : state.phase = .pushed waker) :
    Inv config { state with phase := .streaming } := by
  have sound := inv.sound
  have whole := inv.whole
  simp only [Sound, State.held, phase] at sound whole
  exact { inv with whole, sound }

theorem goOnFinishing (phase : state.phase = .closed waker) :
    Inv config { state with phase := .finishing } := by
  have sound := inv.sound
  have whole := inv.whole
  simp only [Sound, State.held, phase] at sound whole
  exact { inv with whole, sound }

theorem handleNext (waker : Waker) : Inv config (state.next waker).2 := by
  rw [State.next]
  split
  · rename_i item rest buffer
    exact inv.frame (by simp [buffer]) id rfl
  · split <;> exact inv.frame rfl id rfl

variable [DecidableEq Waker]

theorem call (called : Option Waker) : Inv config (state.call called) := by
  rw [State.call]
  split
  · exact inv.frame rfl id rfl
  · exact inv

theorem effect (effect : Effect config state move next) : Inv config next := by
  have sound := inv.sound
  cases effect with
  | polled phase => exact inv.poll phase false
  | checked phase => exact inv.check phase
  | flushed phase pending =>
    simp only [Sound, phase] at sound
    exact inv.push (by simp [State.held, phase, pending]) sound.1 sound.2.1 sound.2.2
  | pushed phase =>
    simp only [Sound, phase] at sound
    exact inv.push (by simp [State.held, phase]) sound.1 sound.2.1 sound.2.2.1
  | streamed phase => exact inv.produce phase _
  | drained phase => exact inv.drain phase _
  | called phase =>
    exact (inv.call _).goOnStreaming ((state.call_phase _).trans phase)
  | calledLast phase =>
    exact (inv.call _).goOnFinishing ((state.call_phase _).trans phase)
  | closed phase => exact inv.close phase
  | finished phase => exact inv.finish phase
  | next => exact inv.handleNext _
  | polledDone | notified | wokeProducer | wokeCancelled => exact inv.frame rfl id rfl
  | cancelled | dropped => exact inv.frame rfl (fun _ => rfl) rfl

end Inv

theorem queue_grows [DecidableEq Waker] (stepped : step config state move = some next) :
    state.returned ++ state.buffer <+: next.returned ++ next.buffer := by
  have pushed : ∀ item : T, state.returned ++ state.buffer <+:
      (state.push config item).returned ++ (state.push config item).buffer := by
    intro item
    rw [State.push]
    split
    · rw [← List.append_assoc]
      exact List.prefix_append _ _
    · exact List.prefix_rfl
  cases effect_of_step stepped with
  | flushed | pushed => exact pushed _
  | next =>
    rw [State.next]
    split
    · rename_i buffer
      simp [buffer]
    · split <;> exact List.prefix_rfl
  | @streamed result | @drained result => cases result <;> exact List.prefix_rfl
  | checked =>
    rw [State.check]
    repeat' split
    all_goals exact List.prefix_rfl
  | called | calledLast =>
    rw [State.call]
    split <;> exact List.prefix_rfl
  | _ => exact List.prefix_rfl

theorem next_cases (state : State T Error Waker) (waker : Waker) :
    (∃ item rest, state.buffer = item :: rest ∧ (state.next waker).1 = .item item) ∨
    (state.buffer = [] ∧ state.closed ∧
      (state.next waker).1 = state.exception.elim .ended .error) ∨
    (state.buffer = [] ∧ state.closed = false ∧ (state.next waker).1 = .pending) := by
  rw [State.next]
  split
  · rename_i item rest buffer
    exact .inl ⟨item, rest, buffer, rfl⟩
  · rename_i buffer
    split
    · rename_i closed
      exact .inr (.inl ⟨buffer, closed, by cases state.exception <;> rfl⟩)
    · rename_i isOpen
      exact .inr (.inr ⟨buffer, Bool.eq_false_iff.mpr isOpen, rfl⟩)

theorem closed_of_ended (result : (state.next waker).1 = .ended) :
    state.closed ∧ state.buffer = [] ∧ state.exception = none := by
  rcases next_cases state waker with ⟨first, rest, -, is⟩ | ⟨buffer, closed, is⟩ | ⟨-, -, is⟩
  all_goals rw [is] at result
  · cases result
  · refine ⟨closed, buffer, ?_⟩
    cases exception : state.exception with
    | none => rfl
    | some _ => simp [exception] at result
  · cases result

theorem closed_of_error (result : (state.next waker).1 = .error error) :
    state.closed ∧ state.buffer = [] ∧ state.exception = some error := by
  rcases next_cases state waker with ⟨first, rest, -, is⟩ | ⟨buffer, closed, is⟩ | ⟨-, -, is⟩
  all_goals rw [is] at result
  · cases result
  · refine ⟨closed, buffer, ?_⟩
    cases exception : state.exception with
    | none => simp [exception] at result
    | some _ => simpa [exception] using result
  · cases result

section

variable (inv : Inv config state)

include inv

theorem Inv.endsWith (closed : state.closed) : state.EndsWith config state.exception := by
  have sound := inv.sound
  rw [Sound] at sound
  split at sound
  all_goals first
    | exact sound.2.2
    | exact sound.2
    | exact absurd closed (by simp [sound.1])

theorem Inv.all_returned (closed : state.closed) (unseen : state.seen = false)
    (buffer : state.buffer = []) :
    state.outcome = some (.ofException state.exception) ∧ state.returned = state.yielded := by
  have ends := inv.endsWith closed
  rw [State.EndsWith, if_neg (by simp [unseen])] at ends
  have nothing : state.held = [] := by
    have sound := inv.sound
    rw [State.held]
    split
    · rename_i phase
      simp only [Sound, phase] at sound
      exact nomatch sound.1.symm.trans closed
    · rw [ends.1, Option.toList_none]
  refine ⟨ends.2, ?_⟩
  rw [inv.whole unseen, nothing, buffer, List.append_nil, List.append_nil]

def State.failed (state : State T Error Waker) : Bool :=
  match state.outcome with
  | some (.failed _) => true
  | _ => false

def State.streams (state : State T Error Waker) : Bool :=
  match state.phase with
  | .streaming => true
  | _ => false

/-- A `cancel()` comes before the stream has failed, and the stream does not fail between the
`cancel()` and the time when the task finds itself cancelled, nor is it dropped before. -/
def cancelsFirst (state : State T Error Waker) : Move T Error Waker → Prop
  | .cancel => state.cancelled ∨ state.failed = false
  | .stream (.error _) => state.streams → state.handle → state.cancelled = false
  | .stream .dropped => state.streams = false
  | _ => True

instance (state : State T Error Waker) : DecidablePred (cancelsFirst state)
  | .cancel => inferInstanceAs (Decidable (_ ∨ _))
  | .stream (.error _) => inferInstanceAs (Decidable (_ → _))
  | .stream .dropped => inferInstanceAs (Decidable (_ = _))
  | .stream .pending | .stream (.item _) | .stream .ended => instDecidableTrue
  | .poll | .check | .flush | .push | .wakeConsumer | .close | .finish | .notify | .next _
  | .wakeProducer | .wakeCancelled | .drop => instDecidableTrue

/-- The stream had not failed when the task found itself cancelled. -/
def Clean (state : State T Error Waker) : Prop :=
  state.handle → state.cancelled → state.seen = false → state.failed = false

omit inv in
theorem Clean.push (clean : Clean state) : Clean (state.push config item) := by
  rw [State.push]
  split <;> exact clean

theorem Clean.step [DecidableEq Waker] (clean : Clean state) (admitted : cancelsFirst state move)
    (effect : Effect config state move next) : Clean next := by
  cases effect with
  | flushed | pushed => exact clean.push
  | checked =>
    rw [State.check]
    repeat' split
    all_goals first
      | exact clean
      | exact fun _ _ => nofun
  | @streamed result phase =>
    cases result with
    | pending | item item => exact clean
    | ended | dropped => exact fun _ _ _ => rfl
    | error error =>
      intro handle cancelled
      have running := admitted (by rw [State.streams, phase]) handle
      exact nomatch running.symm.trans cancelled
  | @drained result phase =>
    have sound := inv.sound
    simp only [Sound, phase] at sound
    have unneeded : ∀ {claim : Prop}, state.seen = false → claim :=
      fun unseen => nomatch unseen.symm.trans sound.2.2.1
    cases result <;> exact fun _ _ => unneeded
  | next =>
    rw [State.next]
    repeat' split
    all_goals exact clean
  | cancelled =>
    intro handle _ unseen
    rcases admitted with cancelled | fine
    · exact clean handle cancelled unseen
    · exact fine
  | dropped => exact nofun
  | called | calledLast =>
    rw [State.call]
    split <;> exact clean
  | _ => exact clean

omit inv in
theorem defined_step [DecidableEq Waker] (admitted : cancelsFirst state move)
    (effect : Effect config state move next) (defined : state.phase ≠ .undefined) :
    next.phase ≠ .undefined := by
  cases effect with
  | checked =>
    rw [State.check]
    repeat' split
    all_goals nofun
  | flushed | pushed =>
    rw [State.push]
    split <;> nofun
  | @streamed result phase =>
    cases result with
    | dropped => simp [cancelsFirst, State.streams, phase] at admitted
    | _ => nofun
  | @drained result phase =>
    cases result with
    | item item => exact defined
    | _ => nofun
  | next =>
    rw [State.next]
    repeat' split
    all_goals exact defined
  | polled | called | calledLast | closed | finished => nofun
  | _ => exact defined

structure Delivers [DecidableEq Waker] (config : Config) (state : State T Error Waker) :
    Prop where
  returned : state.returned <+: state.yielded
  item : ∀ waker item, (state.next waker).1 = .item item →
    state.returned ++ [item] <+: state.yielded
  /-- Nothing leaves the queue but what `poll_next` returns, in a cancel or otherwise. -/
  kept : ∀ move next, step config state move = some next →
    state.returned ++ state.buffer <+: next.returned ++ next.buffer
  ended : ∀ waker, state.handle → state.cancelled = false → (state.next waker).1 = .ended →
    state.outcome = some .ended ∧ state.returned = state.yielded
  error : ∀ waker error, state.handle → (state.next waker).1 = .error error →
    state.cancelled = false ∧ state.outcome = some (.failed error) ∧
      state.returned = state.yielded
  /-- After a cancel, first the queue and then the end -/
  cancelled : ∀ waker, state.handle → state.cancelled → state.closed →
    (state.next waker).1 = state.buffer.head?.elim .ended .item
  drained : ∀ waker, state.handle → state.cancelled → config.hasCancel →
    (state.next waker).1 = .ended → state.outcome.isSome
  cancels : state.cancels ≤ 1
  destroyed : config.hasCancel → state.stream = false → state.outcome.isSome
  finished : state.phase = .done → state.closed
  defined : state.phase ≠ .undefined

theorem Inv.outcome_of_closed (cancels : config.hasCancel) (closed : state.closed) :
    state.outcome.isSome := by
  have ends := inv.endsWith closed
  rw [State.EndsWith] at ends
  split at ends
  · exact ends.2 cancels
  · rw [ends.2, Option.isSome_some]

theorem Clean.exception (clean : Clean state) (handle : state.handle) (cancelled : state.cancelled)
    (closed : state.closed) : state.exception = none := by
  have ends := inv.endsWith closed
  rw [State.EndsWith] at ends
  split at ends
  · exact ends.1
  · rename_i notSeen
    have fine := clean handle cancelled (Bool.eq_false_iff.mpr notSeen)
    rw [State.failed, ends.2] at fine
    cases exception : state.exception with
    | none => rfl
    | some error => simp [exception, Outcome.ofException] at fine

theorem Inv.closed_of_destroyed (destroyed : state.stream = false) : state.closed := by
  have sound := inv.sound
  rw [Sound] at sound
  split at sound
  all_goals first
    | exact nomatch destroyed.symm.trans sound.2.1
    | exact sound.1

theorem Inv.delivers [DecidableEq Waker] (clean : Clean state)
    (defined : state.phase ≠ .undefined) : Delivers config state where
  returned := (List.prefix_append _ _).trans inv.delivered
  item waker item result := by
    rcases next_cases state waker with ⟨first, rest, buffer, is⟩ | ⟨-, -, is⟩ | ⟨-, -, is⟩
    · rw [is, NextResult.item.injEq] at result
      refine List.IsPrefix.trans ?_ inv.delivered
      rw [buffer, result, List.append_cons state.returned item rest]
      exact List.prefix_append _ _
    · rw [is] at result
      cases exception : state.exception <;> simp [exception] at result
    · rw [is] at result
      cases result
  kept _ _ stepped := queue_grows stepped
  ended waker _ running result := by
    rcases closed_of_ended result with ⟨closed, buffer, exception⟩
    have all := inv.all_returned closed (inv.unseen running) buffer
    rwa [exception] at all
  error waker error handle result := by
    rcases closed_of_error result with ⟨closed, buffer, exception⟩
    have running : state.cancelled = false := by
      cases cancelled : state.cancelled with
      | false => rfl
      | true =>
        have nothing := clean.exception inv handle cancelled closed
        cases nothing.symm.trans exception
    have all := inv.all_returned closed (inv.unseen running) buffer
    rw [exception] at all
    exact ⟨running, all⟩
  cancelled waker handle cancelled closed := by
    rcases next_cases state waker with ⟨first, rest, buffer, is⟩ | ⟨buffer, -, is⟩ | ⟨-, isOpen, -⟩
    · rw [is, buffer]
      rfl
    · rw [is, buffer, clean.exception inv handle cancelled closed]
      rfl
    · cases isOpen.symm.trans closed
  drained waker _ _ cancels result := inv.outcome_of_closed cancels (closed_of_ended result).1
  cancels := by
    rw [inv.cancels]
    exact Bool.toNat_le _
  destroyed cancels gone := inv.outcome_of_closed cancels (inv.closed_of_destroyed gone)
  finished phase := by
    have sound := inv.sound
    simp only [Sound, phase] at sound
    exact sound.1
  defined := defined

end

theorem spawned_stream_delivers [DecidableEq Waker]
    (reached : (streamMachine T Error Waker config).Reaches cancelsFirst state) :
    Delivers config state := by
  have all := reached.invariant
    (fun state => Inv config state ∧ Clean state ∧ state.phase ≠ .undefined) ?_ ?_
  · exact all.1.delivers all.2.1 all.2.2
  · rintro state move next ⟨inv, clean, defined⟩ admitted stepped
    have effect := effect_of_step stepped
    exact ⟨inv.effect effect, clean.step inv admitted effect, defined_step admitted effect defined⟩
  · exact ⟨.initial, nofun, nofun⟩

/-- Two items are yielded into a queue of one, the task is cancelled with the second in its
hands, yields a third when it is drained, and the handle reads the first and then the end. -/
theorem spawned_stream_delivers_cancelled :
    ∃ state : State Nat Unit Nat,
      (streamMachine Nat Unit Nat ⟨1, true⟩).Reaches cancelsFirst state ∧
      state.yielded = [7, 8, 9] ∧ state.returned = [7] ∧ state.phase = .done ∧
      (state.next 3).1 = .ended ∧ Delivers ⟨1, true⟩ state := by
  refine exists_of_exec
    [.poll, .check, .stream (.item 7), .push, .wakeConsumer, .stream (.item 8), .push,
      .cancel, .wakeCancelled, .poll, .check, .stream (.item 9), .next 3, .wakeProducer,
      .stream .ended, .close, .wakeConsumer, .finish]
    (by decide +kernel) fun reached => ⟨?_, ?_, ?_, ?_, spawned_stream_delivers reached⟩
  all_goals decide +kernel

/-- The stream fails, then the handle is cancelled, and what `poll_next` returns is the
error. -/
theorem cancelled_stream_returns_error :
    ¬∀ state : State Nat Unit Nat,
      (streamMachine Nat Unit Nat ⟨1, true⟩).Reaches anyMove state →
      Delivers ⟨1, true⟩ state := by
  intro always
  have reached := (streamMachine Nat Unit Nat ⟨1, true⟩).reaches_exec anyMove
    [.poll, .check, .stream (.error ()), .close, .wakeConsumer, .finish, .cancel]
    (by decide +kernel)
  have running := ((always _ reached).error 3 () (by decide +kernel) (by decide +kernel)).1
  exact absurd running (by decide +kernel)

end CoroRuntime.SpawnedStream
