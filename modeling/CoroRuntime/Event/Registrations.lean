import CoroRuntime.Event.Event
import CoroRuntime.Oneshot.Channel
import CoroRuntime.Mpsc.Wakeups

/-! # Registrations of suspended receives

An event, a oneshot and an mpsc channel keep the waker of the one operation that is suspended
on them in a slot without a name. The destructor of any of their futures empties that slot,
its own registration or not.
-/

namespace CoroRuntime.Registrations

open Foundation
open Event (EventState eventMachine)
open Oneshot (OneshotState oneshotMachine)
open Mpsc (MpscState mpscMachine)

section Event

variable {Wait : Type u} {Waker : Type v} [DecidableEq Wait] [DecidableEq Waker]

/-- A future that waits unwoken is registered, and a `set()` wakes it. -/
structure EventKept (state : EventState Wait Waker) : Prop where
  registered : ∀ id future waker, state.alive → state.futures id = some future →
    future.status = .pending waker 0 → state.waitFuture = some id ∧ state.waker = some waker
  set : ∀ id future waker next, state.alive → state.futures id = some future →
    future.status = .pending waker 0 → state.step .set = some next → waker ∈ next.waking

theorem eventKept {state : EventState Wait Waker} (registered : Event.Registered state) :
    EventKept state := by
  have there : ∀ id future waker, state.alive → state.futures id = some future →
      future.status = .pending waker 0 →
        state.waitFuture = some id ∧ state.waker = some waker := by
    intro id future waker alive found pending
    rcases registered.suspended id future waker 0 alive found pending with ⟨-, here, armed⟩
    exact ⟨here, (armed.resolve_right nofun).2⟩
  refine ⟨there, ?_⟩
  intro id future waker next alive found pending stepped
  rcases of_guard stepped with ⟨-, rfl⟩
  simp only [EventState.set, EventState.takeWaker, (there id future waker alive found pending).2]
  exact List.mem_append_right _ (List.mem_singleton_self waker)

end Event

section Oneshot

variable {Recv : Type w} {Waker : Type u} {T : Type v} [DecidableEq Recv] [DecidableEq Waker]

/-- A future that waits unwoken is registered or about to be woken, and a value or the end of
the sender wakes it. -/
structure OneshotKept (state : OneshotState Recv Waker T) : Prop where
  registered : Oneshot.Attended state
  send : ∀ id waker value next, state.recv id = some (.pending waker false) →
    state.receiverAlive → state.step (.send value) = some next → waker ∈ next.waking
  close : ∀ id waker next, state.recv id = some (.pending waker false) →
    state.step .dropSender = some next → waker ∈ next.waking

theorem oneshotKept {state : OneshotState Recv Waker T} (attended : Oneshot.Attended state) :
    OneshotKept state := by
  have taken : ∀ id waker, state.recv id = some (.pending waker false) →
      waker ∈ state.takeWaker.waking := by
    intro id waker pending
    exact (attended.takeWaker id waker pending).resolve_left nofun
  refine ⟨attended, ?_, ?_⟩
  · intro id waker value next pending present stepped
    rcases of_guard stepped with ⟨-, rfl⟩
    rw [OneshotState.send, if_neg (by simp [present])]
    exact taken id waker pending
  · intro id waker next pending stepped
    rcases of_guard stepped with ⟨-, rfl⟩
    exact taken id waker pending

end Oneshot

section Mpsc

variable {Send Recv Waker T : Type} [DecidableEq Send] [DecidableEq Recv] [DecidableEq Waker]

/-- An operation that waits unwoken, of a `recv()` future or of `poll_next()`, is registered
or about to be woken, and a value or the end of the last sender wakes it. -/
structure MpscKept (state : MpscState Send Recv Waker T) : Prop where
  registered : Mpsc.ReceivesAttended state
  send : ∀ node waker move next, state.FindsWaiter node move → node.waker = some waker →
    state.step move = some next → some waker ∈ next.waking
  close : ∀ node waker next, state.receiverWaiter = some node → node.waker = some waker →
    state.senderCount = 1 → state.step .dropSender = some next → some waker ∈ next.waking

theorem mpscKept {state : MpscState Send Recv Waker T} (attended : Mpsc.ReceivesAttended state) :
    MpscKept state := by
  refine ⟨attended, ?_, ?_⟩
  · intro node waker move next finds armed stepped
    rcases finds.found with ⟨active, waits⟩
    cases move with
    | pollSend id =>
      rcases finds.1 with ⟨future, found, -⟩
      simp only [MpscState.step, found] at stepped
      rcases Option.map_eq_some_iff.mp stepped with ⟨last, -, rfl⟩
      simp [MpscState.pollSend, active, waits, armed, MpscState.setSend, MpscState.pushBack]
    | trySend value =>
      rcases of_unless stepped with ⟨-, rfl⟩
      have accepted : { state with passed := state.passed ++ [value] }.trySendError = none :=
        finds.2.1
      rw [MpscState.trySend, accepted]
      simp [waits, armed]
    | _ => exact finds.elim
  · intro node waker next waits armed last stepped
    simp only [MpscState.step, last, Option.ite_none_left_eq_some, Option.some.injEq] at stepped
    rcases stepped with ⟨-, rfl⟩
    simp [MpscState.dropSender, last, waits, armed]

end Mpsc

/-- If no other future is destroyed while an operation is suspended, the operation stays
registered until it is woken. -/
theorem suspended_operation_stays_registered {Wait Send Recv Waker T : Type} [DecidableEq Wait]
    [DecidableEq Send] [DecidableEq Recv] [DecidableEq Waker] :
    (∀ state : EventState Wait Waker,
      (eventMachine Wait Waker).Reaches Event.undisturbed state → EventKept state) ∧
    (∀ state : OneshotState Recv Waker T,
      (oneshotMachine Recv Waker T).Reaches Oneshot.undisturbed state → OneshotKept state) ∧
    ∀ capacity (state : MpscState Send Recv Waker T),
      (mpscMachine Send Recv Waker T capacity).Reaches Mpsc.undisturbedReceive state →
        MpscKept state := by
  refine ⟨?_, ?_, ?_⟩
  · intro state reached
    exact eventKept (reached.invariant Event.Registered
      (fun _ _ _ registered calm stepped => registered.step calm stepped) .initial)
  · intro state reached
    exact oneshotKept (Oneshot.attended_of_reaches reached)
  · intro capacity state reached
    exact mpscKept (Mpsc.attended_of_reaches reached).2.2

/-- The suspended future is polled again with another waker, and one that has resolved was
destroyed before. -/
theorem suspended_operation_stays_registered_polled :
    (∃ state : EventState Bool Nat, (eventMachine Bool Nat).Reaches Event.undisturbed state ∧
      state.futures true = some ⟨true, .pending 5 0⟩ ∧ EventKept state) ∧
    (∃ state : OneshotState Bool Nat Nat,
      (oneshotMachine Bool Nat Nat).Reaches Oneshot.undisturbed state ∧
      state.recv true = some (.pending 5 false) ∧ OneshotKept state) ∧
    ∃ state : MpscState Unit Bool Nat Nat,
      (mpscMachine Unit Bool Nat Nat 1).Reaches Mpsc.undisturbedReceive state ∧
      state.recv true = some (.pending 5 false) ∧ MpscKept state := by
  have kept := @suspended_operation_stays_registered Bool Unit Bool Nat Nat _ _ _ _
  refine ⟨?_, ?_, ?_⟩
  · exact exists_of_exec
      [.wait false, .set, .poll false 2, .clear, .drop false, .wait true, .poll true 3,
        .poll true 5]
      (by decide +kernel) fun reached => ⟨by decide +kernel, kept.1 _ reached⟩
  · exact exists_of_exec
      [.recv false, .dropRecv false, .recv true, .pollRecv true 3, .pollRecv true 5]
      (by decide +kernel) fun reached => ⟨by decide +kernel, kept.2.1 _ reached⟩
  · exact exists_of_exec
      [.trySend 7, .recv false, .pollRecv false 2, .dropRecv false, .recv true,
        .pollRecv true 3, .pollRecv true 5]
      (by decide +kernel) fun reached => ⟨by decide +kernel, kept.2.2 1 _ reached⟩

/-- A future that was never polled is destroyed while another one is suspended, and takes the
registration of that one with it. -/
theorem other_future_withdraws_registration :
    (¬∀ state : EventState Bool Nat,
      (eventMachine Bool Nat).Reaches Event.singleWaiter state → EventKept state) ∧
    (¬∀ state : OneshotState Bool Nat Nat,
      (oneshotMachine Bool Nat Nat).Reaches Oneshot.singleReceive state → OneshotKept state) ∧
    ¬∀ state : MpscState Unit Bool Nat Nat,
      (mpscMachine Unit Bool Nat Nat 1).Reaches Mpsc.singleConsumer state → MpscKept state := by
  refine ⟨?_, ?_, ?_⟩
  · intro always
    have reached := (eventMachine Bool Nat).reaches_exec Event.singleWaiter
      [.wait true, .poll true 3, .wait false, .drop false] (by decide +kernel)
    have armed := (always _ reached).registered true ⟨true, .pending 3 0⟩ 3 rfl rfl rfl
    exact absurd armed.2 (by decide +kernel)
  · intro always
    have reached := (oneshotMachine Bool Nat Nat).reaches_exec Oneshot.singleReceive
      [.recv true, .pollRecv true 3, .recv false, .dropRecv false] (by decide +kernel)
    rcases (always _ reached).registered true 3 rfl with armed | soon
    · cases armed
    · cases soon
  · intro always
    have reached := (mpscMachine Unit Bool Nat Nat 1).reaches_exec Mpsc.singleConsumer
      [.pollNext 3, .recv false, .dropRecv false] (by decide +kernel)
    rcases (always _ reached).registered .stream 3 rfl with ⟨node, armed, -⟩ | soon
    · cases armed
    · cases soon

end CoroRuntime.Registrations
