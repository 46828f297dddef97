/-! # Poll results and task handles -/

namespace CoroRuntime.Future

inductive PollResult (Exception T : Type)
  | pending
  | ready (value : T)
  | error (exception : Exception)
  | dropped
  deriving DecidableEq, Repr

namespace PollResult

variable {Exception T : Type}

def isPending : PollResult Exception T → Bool
  | .pending => true
  | _ => false

def isDropped : PollResult Exception T → Bool
  | .dropped => true
  | _ => false

end PollResult

/-! ## Handles -/

/-- The part of a task's state that its handle looks at. -/
structure TaskResult (Exception T : Type) where
  terminated : Bool
  result : Option T
  exception : Option Exception

def JoinHandle.poll (task : TaskResult Exception T) : PollResult Exception T :=
  if task.terminated then
    match task.exception, task.result with
    | some exception, _ => .error exception
    | none, some value => .ready value
    | none, none => .dropped
  else .pending

end CoroRuntime.Future
