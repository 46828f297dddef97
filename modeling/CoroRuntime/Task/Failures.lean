import CoroRuntime.Combinators.Failures
import CoroRuntime.Task.TaskImpl
import CoroRuntime.WebSocket.Polling

/-! # Failing futures

A future that returns its failure as an Error result ends its combinator and its task in
order. One that throws it, as the WebSocket futures do, bypasses them.
-/

namespace CoroRuntime.Polling

open Foundation Future Combinators WebSocket.Polling

variable {n : Nat} {Exception : Type}

def selectCalls [NeZero n] (Output : Fin n → Type) (cancellable : Fin n → Bool)
    (taskCancelled : Exception) :
    Machine (Called Output Exception (SelectFuture Output Exception)
      ((branch : Fin n) × Output branch)) (Calls Output Exception) :=
  callAgain SelectFuture.new (SelectFuture.call cancellable taskCancelled)

def joinCalls [NeZero n] (Output : Fin n → Type) (cancellable : Fin n → Bool)
    (taskCancelled : Exception) :
    Machine (Called Output Exception (JoinFuture Output Exception)
      ((branch : Fin n) → Output branch)) (Calls Output Exception) :=
  callAgain JoinFuture.new (JoinFuture.call cancellable taskCancelled)

theorem selectCalls_handles [NeZero n]
    {called : Called Output Exception (SelectFuture Output Exception)
      ((branch : Fin n) × Output branch)}
    (reached : (selectCalls Output cancellable taskCancelled).Reaches
      (fun _ calls => Behaves calls) called) :
    HandlesFailures SelectFuture.states SelectFuture.exception called :=
  callAgain_handles SelectFuture.states ⟨rfl, rfl⟩
    (fun _ future returns =>
      SelectFuture.call_eq cancellable taskCancelled returns future)
    (fun _ _ _ drains tracked =>
      SelectFuture.poll_keeps cancellable taskCancelled drains tracked)
    (fun answers _ _ recorded =>
      SelectFuture.poll_reports cancellable taskCancelled answers recorded)
    reached

theorem joinCalls_handles [NeZero n] {called : Called Output Exception (JoinFuture Output Exception)
      ((branch : Fin n) → Output branch)}
    (reached : (joinCalls Output cancellable taskCancelled).Reaches
      (fun _ calls => Behaves calls) called) :
    HandlesFailures JoinFuture.states JoinFuture.exception called :=
  callAgain_handles JoinFuture.states ⟨rfl, rfl⟩
    (fun _ future returns =>
      JoinFuture.call_eq cancellable taskCancelled returns future)
    (fun _ _ _ drains tracked =>
      JoinFuture.poll_keeps cancellable taskCancelled drains tracked)
    (fun answers _ _ recorded =>
      JoinFuture.poll_reports cancellable taskCancelled answers recorded)
    reached

/-- When every `poll()` returns, and branches that are cancelled drain to Dropped, `select()`
and `join()` handle the failures of their branches; and a task whose future returns its
failure ends with it. -/
theorem returned_failure_ends_in_order [NeZero n] (Output : Fin n → Type)
    (cancellable : Fin n → Bool) (taskCancelled : Exception) (Waker T : Type)
    (futureCancellable : Bool) (isTaskCancelled : Exception → Bool) :
    (∀ called, (selectCalls Output cancellable taskCancelled).Reaches
        (fun _ calls => Behaves calls) called →
      HandlesFailures SelectFuture.states SelectFuture.exception called) ∧
    (∀ called, (joinCalls Output cancellable taskCancelled).Reaches
        (fun _ calls => Behaves calls) called →
      HandlesFailures JoinFuture.states JoinFuture.exception called) ∧
    ∀ spawned, (taskMachine futureCancellable isTaskCancelled Waker T).Reaches callReturns
        spawned → EndsWithFailure isTaskCancelled spawned :=
  ⟨fun _ reached => selectCalls_handles reached, fun _ reached => joinCalls_handles reached,
    fun _ reached => endsWithFailure_of_reaches reached⟩

/-- The first branch fails, and the second one takes one more poll to drain. -/
def failsFirst (drained : Bool) : Calls (fun _ : Fin 2 => Nat) Nat where
  active := fun branch => if branch.val = 0 then .ok (.error 7) else .ok .pending
  draining := fun _ => if drained then .ok .dropped else .ok .pending
  budgetSpent := fun _ => false

theorem failsFirst_behaves (drained : Bool) : Behaves (failsFirst drained) := by
  refine ⟨⟨fun branch exception => ?_, fun branch exception => ?_⟩, fun branch => ?_⟩
  · simp only [failsFirst]
    split <;> simp
  · cases drained <;> simp [failsFirst]
  · cases drained <;> simp [failsFirst, Calls.results, Call.result]

theorem returned_failure_ends_in_order_seven :
    (∃ called, (selectCalls (fun _ : Fin 2 => Nat) (fun _ => true) 0).Reaches
        (fun _ calls => Behaves calls) called ∧ called.outcome = .ok (.error 7) ∧
      HandlesFailures SelectFuture.states SelectFuture.exception called) ∧
    (∃ called, (joinCalls (fun _ : Fin 2 => Nat) (fun _ => true) 0).Reaches
        (fun _ calls => Behaves calls) called ∧ called.outcome = .ok (.error 7) ∧
      HandlesFailures JoinFuture.states JoinFuture.exception called) ∧
    ∃ spawned, (taskMachine true (fun _ : Nat => false) Unit Nat).Reaches callReturns spawned ∧
      spawned.failure = some (7, false) ∧ EndsWithFailure (fun _ => false) spawned := by
  have ends := returned_failure_ends_in_order (fun _ : Fin 2 => Nat) (fun _ => true) 0 Unit Nat
    true (fun _ => false)
  have drains : (selectCalls (fun _ : Fin 2 => Nat) (fun _ => true) 0).Reaches
      (fun _ calls => Behaves calls) _ :=
    ⟨[failsFirst false, failsFirst true], .cons (failsFirst_behaves false) rfl
      (.cons (failsFirst_behaves true) rfl (.nil _))⟩
  have joins : (joinCalls (fun _ : Fin 2 => Nat) (fun _ => true) 0).Reaches
      (fun _ calls => Behaves calls) _ :=
    ⟨[failsFirst false, failsFirst true], .cons (failsFirst_behaves false) rfl
      (.cons (failsFirst_behaves true) rfl (.nil _))⟩
  have polled : (taskMachine true (fun _ : Nat => false) Unit Nat).Reaches callReturns _ :=
    ⟨[.poll (.ok (.error 7))], .cons (by simp [callReturns]) rfl (.nil _)⟩
  exact ⟨⟨_, drains, rfl, ends.1 _ drains⟩, ⟨_, joins, rfl, ends.2.1 _ joins⟩,
    ⟨_, polled, rfl, ends.2.2 _ polled⟩⟩

/-- Two receives, the first on a connection that has been closed -/
def closedConnection : Calls (fun _ : Fin 2 => Message Nat) Thrown where
  active := fun branch => (ReceiveFuture.poll () { closed := branch.val = 0 }).1
  draining := fun _ => .ok .pending
  budgetSpent := fun _ => false

/-- The exception of the first receive leaves `select()` and `join()` with nothing recorded
and the second one active, and leaves the poll of a task with the handle pending for good. -/
theorem thrown_failure_bypasses :
    (∃ called, (selectCalls (fun _ : Fin 2 => Message Nat) (fun _ => true)
        (Thrown.runtimeError "")).Reaches anyMove called ∧
      called.outcome = .error (.runtimeError "WsStream::receive: connection closed") ∧
      called.future.exception = none ∧ called.future.states 1 = .active ∧
      ¬HandlesFailures SelectFuture.states SelectFuture.exception called) ∧
    (∃ called, (joinCalls (fun _ : Fin 2 => Message Nat) (fun _ => true)
        (Thrown.runtimeError "")).Reaches anyMove called ∧
      called.outcome = .error (.runtimeError "WsStream::receive: connection closed") ∧
      called.future.exception = none ∧ called.future.states 1 = .active ∧
      ¬HandlesFailures JoinFuture.states JoinFuture.exception called) ∧
    ∃ spawned, (taskMachine false (fun _ : Thrown => false) Unit (Message Nat)).Reaches
        anyMove spawned ∧
      spawned.thrown = some (.runtimeError "WsStream::receive: connection closed") ∧
      spawned.task.state.terminated = false ∧ ¬EndsWithFailure (fun _ => false) spawned := by
  refine ⟨?_, ?_, ?_⟩
  · refine ⟨_, ⟨[closedConnection], .cons trivial rfl (.nil _)⟩, rfl, rfl, rfl, ?_⟩
    exact fun handles => handles.contained _ rfl
  · refine ⟨_, ⟨[closedConnection], .cons trivial rfl (.nil _)⟩, rfl, rfl, rfl, ?_⟩
    exact fun handles => handles.contained _ rfl
  · refine ⟨_, ⟨[.poll (ReceiveFuture.poll () { closed := true }).1],
      .cons trivial rfl (.nil _)⟩, rfl, rfl, ?_⟩
    exact fun ends => nomatch ends.contained

end CoroRuntime.Polling
