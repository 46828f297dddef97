import CoroRuntime.Foundation.Execution

/-! # The scheduling state of a task

`SchedulingState`, the atomic cell that holds it, and the compare-exchange loop
that `TaskBase::wake()` and `JoinHandle::cancel()` each write out.
-/

namespace CoroRuntime.Task

/-- The five enumerators, and any other code the cell's byte could hold. -/
inductive SchedulingState
  | idle
  | running
  | notified
  | runningAndNotified
  | done
  | unknown (code : UInt8)
  deriving DecidableEq, Repr

/-- `cell.compare_exchange_strong(expected, desired)`. -/
structure ExchangeResult (α : Type u) where
  success : Bool
  cell : α
  expected : α

def compareExchangeStrong [DecidableEq α] (cell expected desired : α) :
    ExchangeResult α :=
  if cell = expected then ⟨true, desired, expected⟩ else ⟨false, cell, cell⟩

inductive NotifyOutcome
  | retry (expected : SchedulingState)
  | enqueue
  | finished
  | abort
  deriving DecidableEq, Repr

/-- The loop's `switch` on an `expected` that a failed exchange has just
reloaded: the cases that return or abort do not touch the cell again. -/
def NotifyOutcome.ofReloaded : SchedulingState → NotifyOutcome
  | .idle => .retry .idle
  | .running => .retry .running
  | .notified | .runningAndNotified | .done => .finished
  | .unknown _ => .abort

/-- One turn of the loop: the exchange that the `switch` on `expected` selects,
and where it leaves the loop. -/
def notifyTurn (cell expected : SchedulingState) : SchedulingState × NotifyOutcome :=
  match expected with
  | .idle =>
    let result := compareExchangeStrong cell .idle .notified
    (result.cell,
      if result.success then .enqueue else .ofReloaded result.expected)
  | .running =>
    let result := compareExchangeStrong cell .running .runningAndNotified
    (result.cell,
      if result.success then .finished else .ofReloaded result.expected)
  | other => (cell, .ofReloaded other)

namespace TaskBase

def wakeTurn : SchedulingState → SchedulingState → SchedulingState × NotifyOutcome :=
  notifyTurn

end TaskBase

namespace JoinHandle

def cancelTurn : SchedulingState → SchedulingState → SchedulingState × NotifyOutcome :=
  notifyTurn

end JoinHandle

/-- The states in which a task is queued, will be queued again after its poll,
or has finished: none of them can lose a notification. -/
def SchedulingState.Alerted : SchedulingState → Prop
  | .notified | .runningAndNotified | .done => True
  | _ => False

instance : DecidablePred SchedulingState.Alerted := fun state => by
  cases state <;> simp only [SchedulingState.Alerted] <;> infer_instance

theorem notifyTurn_cases (cell expected : SchedulingState) :
    (cell = .idle ∧ expected = .idle ∧ notifyTurn cell expected = (.notified, .enqueue)) ∨
    (cell = .running ∧ expected = .running ∧
      notifyTurn cell expected = (.runningAndNotified, .finished)) ∨
    ((notifyTurn cell expected).1 = cell ∧
      ((notifyTurn cell expected).2 = .ofReloaded cell ∨
        (notifyTurn cell expected).2 = .ofReloaded expected ∧
          expected ≠ .idle ∧ expected ≠ .running)) := by
  cases expected with
  | idle =>
    by_cases same : cell = .idle
    · simp [notifyTurn, compareExchangeStrong, same]
    · simp [notifyTurn, compareExchangeStrong, same]
  | running =>
    by_cases same : cell = .running
    · simp [notifyTurn, compareExchangeStrong, same]
    · simp [notifyTurn, compareExchangeStrong, same]
  | _ => simp [notifyTurn]

end CoroRuntime.Task
