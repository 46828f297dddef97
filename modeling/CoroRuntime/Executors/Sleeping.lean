import CoroRuntime.Executors.CurrentThread
import CoroRuntime.Executors.WorkSharing

/-! # Executors that share their queues under a lock

The current-thread and the work-sharing executor decide to sleep under the lock of the queue
that other threads push to, and sleep outside it. Neither sleeps on work.
-/

namespace CoroRuntime.Executors

open Foundation
open Timers (Entry Wait)

variable {Task : Type u} {Waker : Type v} {Thread : Type w} [DecidableEq Task]
  [DecidableEq Waker] [DecidableEq Thread]

/-- In any interleaving of what other threads do with what the loop or the workers do, an
executor that sleeps has nothing to run, or an unpark or a notification is on its way. -/
theorem executors_never_sleep_on_work (library : HeapLibrary Entry Entry.before)
    (config : CurrentThread.Config) (workers : Nat) :
    (∀ state : CurrentThread.State Task Waker Thread,
      (CurrentThread.machine library config).Reaches anyMove state →
        CurrentThread.NeverSleeps state) ∧
    (∀ state : WorkSharing.State workers Task Thread,
      WorkSharing.machine.Reaches anyMove state → WorkSharing.NeverSleeps state) :=
  ⟨fun _ reached => CurrentThread.neverSleeps_of_reaches library reached,
    fun _ reached => WorkSharing.neverSleeps_of_reaches reached⟩

/-- The loop sleeps until its only timer is due. Of two workers one sleeps in the driver and
one on the condition variable, and a task arrives. -/
theorem executors_never_sleep_on_work_parked :
    (∃ state : CurrentThread.State Nat Nat Nat,
      (CurrentThread.machine HeapLibrary.sorted (.ofIntervals 0 31)).Reaches anyMove
        state ∧
      state.Sleeps ⟨2, some 8, false⟩ ∧ state.timers.live ⟨0, 0⟩ = some ⟨10, 0, some 5⟩ ∧
      CurrentThread.NeverSleeps state) ∧
    ∃ state : WorkSharing.State 2 Nat Nat,
      WorkSharing.machine.Reaches anyMove state ∧
      (∀ worker, (state.phase worker).blocked) ∧ state.injection = [7] ∧
      WorkSharing.NeverSleeps state := by
  have never := @executors_never_sleep_on_work Nat Nat Nat _ _ _ HeapLibrary.sorted
    (.ofIntervals 0 31) 2
  constructor
  · refine exists_of_exec
      [.addTimer 3 10 (some 5), .enqueue 3 7, .call false, .done false, .next,
        .polled false false, .next, .fire, .fired, .done false, .advance 2, .park]
      (by decide +kernel) fun reached => ⟨⟨?_, rfl⟩, ?_, never.1 _ reached⟩
    all_goals decide +kernel
  · refine exists_of_exec [.pop 0, .lock 0, .pop 1, .lock 1, .enqueue 3 7]
      (by decide +kernel) fun reached => ⟨?_, ?_, never.2 _ reached⟩
    all_goals decide +kernel

end CoroRuntime.Executors
