import CoroRuntime.SpawnedStream.Delivery

/-! # The two sides of a spawned stream wake each other

A background task that waits for room has left its waker in a full queue, or the handle is on
its way to wake it. A consumer that waits has left its waker in an empty queue that is not
closed, or the task is on its way to wake it.
-/

namespace CoroRuntime.SpawnedStream

open Foundation

variable {T : Type u} {Error : Type v} {Waker : Type w} {config : Config}
  {state next : State T Error Waker}

def State.calls (state : State T Error Waker) : Option Waker :=
  match state.phase with
  | .pushed waker | .closed waker => waker
  | _ => none

def State.idle (state : State T Error Waker) : Bool :=
  match state.phase with
  | .idle => true
  | _ => false

theorem State.calls_of_idle (state : State T Error Waker) (idle : state.idle) :
    state.calls = none := by
  rw [State.idle] at idle
  split at idle
  · rename_i phase
    rw [State.calls, phase]
  · cases idle

def State.parked (state : State T Error Waker) : Bool :=
  state.idle && state.pending.isSome && !state.notified

/-- The last `poll_next` returned Pending, and the consumer has not been woken since. -/
def State.waits (state : State T Error Waker) : Bool :=
  match state.consumer with
  | .pending _ woken => !woken
  | .ready => false

/-- Somebody has taken a waker out, or has cancelled the task, and has not called the waker
yet. -/
def State.wakeInFlight (state : State T Error Waker) : Bool :=
  state.calls.isSome || state.wakesProducer || state.wakesCancelled

structure Attended (config : Config) (state : State T Error Waker) : Prop where
  producer : state.parked →
    (state.producerWaker ∧ config.capacity ≤ state.buffer.length) ∨ state.wakesProducer
  consumer : ∀ waker, state.consumer = .pending waker false →
    (state.consumerWaker = some waker ∧ state.buffer = [] ∧ state.closed = false) ∨
      state.calls = some waker
  waking : state.wakesProducer → state.consumer = .ready

/-- The queue, what the handle waits for and whom it is to wake. -/
def State.handleSide (state : State T Error Waker) :=
  (state.closed, state.buffer, state.consumer, state.consumerWaker, state.producerWaker,
    state.wakesProducer)

namespace Attended

theorem initial : Attended config ({} : State T Error Waker) := by
  constructor <;> simp [State.parked]

variable (attended : Attended config state)

include attended

/-- The handle's side of the queue stays, and the task is not suspended with an item. -/
theorem frame (moving : next.parked → state.parked)
    (calls : state.calls = none ∨ next.calls = state.calls)
    (same : next.handleSide = state.handleSide) : Attended config next := by
  simp only [State.handleSide, Prod.mk.injEq] at same
  rcases same with ⟨closed, buffer, consumer, consumerWaker, producerWaker, waking⟩
  refine ⟨?_, ?_, ?_⟩
  · intro parked
    rw [producerWaker, buffer, waking]
    exact attended.producer (moving parked)
  · intro waker pending
    rw [consumerWaker, buffer, closed]
    rcases attended.consumer waker (consumer ▸ pending) with here | called
    · exact .inl here
    · rcases calls with nobody | same
      · cases nobody.symm.trans called
      · exact .inr (same.trans called)
  · intro wakes
    rw [consumer]
    exact attended.waking (waking ▸ wakes)

theorem push (item : T) (calls : state.calls = none) :
    Attended config (state.push config item) := by
  rw [State.push]
  split
  · refine ⟨by simp [State.parked, State.idle], ?_, attended.waking⟩
    intro waker pending
    rcases attended.consumer waker pending with here | called
    · exact .inr here.1
    · cases calls.symm.trans called
  · rename_i full
    refine ⟨fun _ => .inl ⟨rfl, Nat.not_lt.mp full⟩, ?_, attended.waking⟩
    intro waker pending
    rcases attended.consumer waker pending with here | called
    · exact .inl here
    · cases calls.symm.trans called

theorem close (exception : Option Error)
    (calls : state.calls = none) :
    Attended config { state with
      closed := true, exception, consumerWaker := none, phase := .closed state.consumerWaker } := by
  refine ⟨by simp [State.parked, State.idle], ?_, attended.waking⟩
  intro waker pending
  rcases attended.consumer waker pending with here | called
  · exact .inr here.1
  · cases calls.symm.trans called

theorem handleNext (waker : Waker)
    (quiet : state.wakesProducer = false) : Attended config (state.next waker).2 := by
  have silent : ∀ {claim : Prop}, state.wakesProducer → claim :=
    fun wakes => Bool.noConfusion (quiet.symm.trans wakes)
  rw [State.next]
  split
  · refine ⟨fun parked => .inr ?_, by simp, fun _ => rfl⟩
    rcases attended.producer parked with here | wakes
    · exact here.1
    · exact silent wakes
  · rename_i buffer
    split
    · exact ⟨attended.producer, by simp, fun _ => rfl⟩
    · rename_i isOpen
      refine ⟨attended.producer, ?_, silent⟩
      intro other pending
      cases pending
      exact .inl ⟨rfl, buffer, Bool.eq_false_iff.mpr isOpen⟩

variable [DecidableEq Waker]

theorem call (calls : state.calls = called) (busy : State.idle { state with phase } = false) :
    Attended config { state.call called with phase } := by
  have moving : ∀ (next : State T Error Waker) (claim : Prop),
      next.phase = phase → next.parked → claim := by
    intro next claim same parked
    simp only [State.parked, State.idle, same, Bool.and_eq_true] at parked
    exact nomatch busy.symm.trans parked.1.1
  rw [State.call]
  split
  · rename_i waker woken consumer
    refine ⟨moving _ _ rfl, ?_, ?_⟩
    · intro other pending
      simp only [Consumer.pending.injEq, Bool.or_eq_false_iff, decide_eq_false_iff_not] at pending
      rcases pending with ⟨rfl, rfl, different⟩
      rcases attended.consumer waker consumer with here | called
      · exact .inl here
      · exact absurd (calls.symm.trans called) different
    · intro wakes
      cases consumer.symm.trans (attended.waking wakes)
  · rename_i ready
    refine ⟨moving _ _ rfl, ?_, fun _ => ready⟩
    intro waker pending
    cases ready.symm.trans pending

theorem effect (inv : Inv config state) (effect : Effect config state move next) :
    Attended config next := by
  have sound := inv.sound
  cases effect with
  | polled phase | finished phase =>
    exact attended.frame (by simp [State.parked, State.idle])
      (.inl (by rw [State.calls, phase])) rfl
  | polledDone phase =>
    exact attended.frame (by simp [State.parked, State.idle, phase]) (.inr rfl) rfl
  | checked phase =>
    have calls : state.calls = none := by rw [State.calls, phase]
    rw [State.check]
    repeat' split
    all_goals exact attended.frame (by simp [State.parked, State.idle]) (.inl calls) rfl
  | flushed phase | pushed phase => exact attended.push _ (by rw [State.calls, phase])
  | @streamed result phase =>
    have calls : state.calls = none := by rw [State.calls, phase]
    simp only [Sound, phase] at sound
    cases result
    all_goals
      exact attended.frame
        (by simp [State.produce, State.finishStream, State.parked, State.idle, sound])
        (.inl calls) rfl
  | @drained result phase =>
    have calls : state.calls = none := by rw [State.calls, phase]
    simp only [Sound, phase] at sound
    cases result
    all_goals
      exact attended.frame
        (by simp [State.drain, State.finishStream, State.parked, State.idle, phase, sound])
        (.inl calls) rfl
  | called phase | calledLast phase => exact attended.call (by rw [State.calls, phase]) rfl
  | closed phase => exact attended.close _ (by rw [State.calls, phase])
  | notified | wokeCancelled => exact attended.frame (by simp [State.parked]) (.inr rfl) rfl
  | next quiet => exact attended.handleNext _ quiet
  | wokeProducer => exact ⟨by simp [State.parked], attended.consumer, by simp⟩
  | cancelled => exact attended.frame id (.inr rfl) rfl
  | dropped => exact ⟨attended.producer, by simp, fun _ => rfl⟩

end Attended

structure Progresses (state : State T Error Waker) : Prop where
  parked : ¬(state.parked ∧ state.waits)
  waits : state.wakeInFlight = false → state.waits → state.buffer = [] ∧ state.closed = false

theorem Attended.progresses (attended : Attended config state) (positive : 1 ≤ config.capacity) :
    Progresses state := by
  have empty : state.calls = none → state.waits → state.buffer = [] ∧ state.closed = false := by
    intro calls waits
    rw [State.waits] at waits
    split at waits
    · rename_i waker woken consumer
      have unwoken : woken = false := by simpa using waits
      subst unwoken
      rcases attended.consumer waker consumer with here | called
      · exact here.2
      · cases calls.symm.trans called
    · cases waits
  constructor
  · rintro ⟨parked, waits⟩
    have idle : state.idle := by
      simp only [State.parked, Bool.and_eq_true] at parked
      exact parked.1.1
    rcases attended.producer parked with ⟨-, full⟩ | wakes
    · rw [(empty (state.calls_of_idle idle) waits).1] at full
      exact absurd positive (Nat.not_le.mpr (Nat.lt_of_le_of_lt full Nat.one_pos))
    · simp [State.waits, attended.waking wakes] at waits
  · intro quiet
    apply empty
    simp only [State.wakeInFlight, Bool.or_eq_false_iff, Option.isSome_eq_false_iff] at quiet
    exact Option.isNone_iff_eq_none.mp quiet.1.1

theorem spawned_stream_progresses [DecidableEq Waker] (positive : 1 ≤ config.capacity)
    (reached : (streamMachine T Error Waker config).Reaches anyMove state) :
    Progresses state := by
  have both := reached.invariant (fun state => Inv config state ∧ Attended config state) ?_ ?_
  · exact both.2.progresses positive
  · rintro state move next ⟨inv, attended⟩ - stepped
    have effect := effect_of_step stepped
    exact ⟨inv.effect effect, attended.effect inv effect⟩
  · exact ⟨.initial, .initial⟩

/-- The consumer waits on an empty queue and the task on its stream. -/
theorem spawned_stream_progresses_waiting :
    ∃ state : State Nat Unit Nat,
      (streamMachine Nat Unit Nat ⟨1, true⟩).Reaches anyMove state ∧
      state.waits ∧ state.wakeInFlight = false ∧ state.yielded = [7] ∧ Progresses state := by
  refine exists_of_exec
    [.next 3, .poll, .check, .stream (.item 7), .push, .wakeConsumer, .stream .pending,
      .next 3, .next 3]
    (by decide +kernel) fun reached =>
      ⟨?_, ?_, ?_, spawned_stream_progresses (Nat.le_refl 1) reached⟩
  all_goals decide +kernel

/-- With `buffer(0)` the first item finds no room, and nobody ever makes any. -/
theorem buffer_zero_deadlocks :
    ¬∀ (config : Config) (state : State Nat Unit Nat),
      (streamMachine Nat Unit Nat config).Reaches anyMove state → Progresses state := by
  intro always
  have reached := (streamMachine Nat Unit Nat ⟨0, true⟩).reaches_exec anyMove
    [.next 3, .poll, .check, .stream (.item 7), .push] (by decide +kernel)
  exact (always _ _ reached).parked (by decide +kernel)

end CoroRuntime.SpawnedStream
