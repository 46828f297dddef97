import CoroRuntime.Foundation.Execution

/-! # The join set

`JoinSetSharedState` of a live `JoinSet<T, Tag>`, its tasks, and the operations that
consume it: `next()`, and the futures of `join_all()`, `drain()` and `shutdown()`. Each
critical section of the mutex is one move, and so is each task whose result is taken
outside it.
-/

namespace CoroRuntime.JoinSet

open Foundation

inductive Outcome (Value Exception : Type)
  | value (value : Value)
  | exception (exception : Exception)
  | cancelled
  deriving DecidableEq, Repr

inductive Failure (Exception : Type)
  | exception (exception : Exception)
  | joinCancelled
  deriving DecidableEq, Repr

structure JoinResult (Tag Value Exception : Type) where
  outcome : Outcome Value Exception
  /-- `none` would be a tag that was moved from. -/
  tag : Option Tag
  deriving DecidableEq, Repr

/-- How far a task is: it stores its result, and then it calls `on_task_complete()`. -/
inductive Progress (Value Exception : Type)
  | running
  | finished (outcome : Outcome Value Exception)
  | notified (outcome : Outcome Value Exception)
  deriving DecidableEq, Repr

structure TaskNode (Tag Value Exception : Type) where
  task : Bool
  completed : Bool
  /-- `none` once it has been moved out. -/
  tag : Option Tag
  result : Option Value
  exception : Option Exception
  cancelRequested : Bool
  progress : Progress Value Exception
  /-- History: the tag the task was spawned with. -/
  spawnedTag : Tag
  deriving DecidableEq, Repr

inductive OnError
  | cancel
  | wait
  deriving DecidableEq, Repr

inductive Request (Tag Value Exception : Type)
  | next
  | joinAll (into : List (JoinResult Tag Value Exception)) (onError : OnError)
  | drain (ranksLast : Option (Failure Exception → Bool)) (onError : OnError)
  | shutdown

inductive Collector (Tag Value Exception : Type)
  | joinAll (results : List (JoinResult Tag Value Exception))
  | drain (firstFailure : Option (Failure Exception))
      (ranksLast : Option (Failure Exception → Bool))
  | shutdown

inductive Answer (Tag Value Exception : Type)
  | item (item : Option (JoinResult Tag Value Exception))
  | results (results : List (JoinResult Tag Value Exception))
  | ready
  | error (failure : Failure Exception)
  | dropped
  deriving DecidableEq, Repr

inductive Phase (Task Tag Value Exception : Type)
  | created
  /-- Inside a poll, before its first critical section. -/
  | begun
  | taking (task : Task)
  /-- A bulk poll works off the nodes that it swapped out of `idle_handles`. -/
  | sweeping (anyPending failed : Bool) (toProcess : List Task)
  /-- Before the second critical section of a bulk poll. -/
  | checking
  | pending
  | ready (answer : Answer Tag Value Exception)
  | destroyed
  deriving DecidableEq, Repr

structure Operation (Task Tag Value Exception : Type) where
  request : Request Tag Value Exception
  collector : Collector Tag Value Exception
  /-- `m_cancelled`: `cancel_all` is done. -/
  cancelled : Bool
  /-- `m_dropped`: `cancel()` was called. -/
  dropped : Bool
  phase : Phase Task Tag Value Exception
  /-- The polls so far. A poll's waker is named by its number. -/
  polls : Nat
  /-- Woken since the last poll began. -/
  woken : Bool

structure JoinSetState (Task Consumer Tag Value Exception : Type) where
  pendingHandles : List Task
  idleHandles : List Task
  consumerWaker : Option (Consumer × Nat)
  node : Task → Option (TaskNode Tag Value Exception)
  consumer : Consumer → Option (Operation Task Tag Value Exception)
  /-- The wakers that were taken and not yet called. -/
  inFlight : List (Consumer × Nat)
  /-- History: the tasks in the order in which their completion was recorded. -/
  recorded : List Task
  /-- History: the nodes that were popped, and by whom. -/
  taken : List (Consumer × Task)
  /-- History: the results that were handed out. -/
  handedOut : List (Consumer × Task × JoinResult Tag Value Exception)
  /-- History: a null `completed` was dereferenced. -/
  failed : Bool

inductive Move (Task Consumer Tag Value Exception : Type)
  | spawn (task : Task) (tag : Tag)
  | cancelTask (task : Task)
  /-- The last poll of a task stores its outcome. -/
  | finish (task : Task) (outcome : Outcome Value Exception)
  /-- The critical section of `on_task_complete()`. -/
  | complete (task : Task)
  | wake (waker : Consumer × Nat)
  | cancelAll
  | request (consumer : Consumer) (request : Request Tag Value Exception)
  | cancel (consumer : Consumer)
  | destroy (consumer : Consumer)
  | poll (consumer : Consumer)
  /-- The first critical section of a poll. -/
  | sweep (consumer : Consumer)
  | take (consumer : Consumer)
  /-- The end of the loop over `to_process`. -/
  | settle (consumer : Consumer)
  /-- The second critical section of a bulk poll. -/
  | check (consumer : Consumer)

section Values

variable {Tag Value Exception : Type}

def Outcome.hasValue : Outcome Value Exception → Bool
  | .value _ => true
  | _ => false

def Outcome.failure : Outcome Value Exception → Option (Failure Exception)
  | .value _ => none
  | .exception error => some (.exception error)
  | .cancelled => some .joinCancelled

def TaskNode.new (tag : Tag) : TaskNode Tag Value Exception where
  task := true
  completed := false
  tag := some tag
  result := none
  exception := none
  cancelRequested := false
  progress := .running
  spawnedTag := tag

def TaskNode.finish (node : TaskNode Tag Value Exception) :
    Outcome Value Exception → TaskNode Tag Value Exception
  | .value value => { node with result := some value, progress := .finished (.value value) }
  | .exception error =>
    { node with exception := some error, progress := .finished (.exception error) }
  | .cancelled => { node with progress := .finished .cancelled }

/-- The outcome that `take_result()` reads off the task. -/
def TaskNode.stored (node : TaskNode Tag Value Exception) : Outcome Value Exception :=
  match node.exception, node.result with
  | some error, _ => .exception error
  | none, some value => .value value
  | none, none => .cancelled

def TaskNode.takeResult (node : TaskNode Tag Value Exception) :
    Option (JoinResult Tag Value Exception × TaskNode Tag Value Exception) :=
  if node.completed then
    some (⟨node.stored, node.tag⟩, { node with completed := false, tag := none })
  else none

def TaskNode.requestCancel (node : TaskNode Tag Value Exception) : TaskNode Tag Value Exception :=
  if node.task then { node with cancelRequested := true } else node

def Request.onError : Request Tag Value Exception → OnError
  | .next => .wait
  | .joinAll _ onError => onError
  | .drain _ onError => onError
  | .shutdown => .cancel

def Request.cancelsAtStart : Request Tag Value Exception → Bool
  | .shutdown => true
  | _ => false

def Request.isNext : Request Tag Value Exception → Bool
  | .next => true
  | _ => false

def Request.collector : Request Tag Value Exception → Collector Tag Value Exception
  | .next => .shutdown
  | .joinAll into _ => .joinAll into
  | .drain ranksLast _ => .drain none ranksLast
  | .shutdown => .shutdown

def keepFailure (ranksLast : Option (Failure Exception → Bool)) (failure : Failure Exception) :
    Option (Failure Exception) → Option (Failure Exception)
  | none => some failure
  | some first =>
    match ranksLast with
    | none => some first
    | some ranksLast =>
      if ranksLast first && !ranksLast failure then some failure else some first

def Collector.add (collector : Collector Tag Value Exception)
    (result : JoinResult Tag Value Exception) : Collector Tag Value Exception :=
  match collector with
  | .joinAll results => .joinAll (results ++ [result])
  | .drain firstFailure ranksLast =>
    match result.outcome.failure with
    | none => .drain firstFailure ranksLast
    | some failure => .drain (keepFailure ranksLast failure firstFailure) ranksLast
  | .shutdown => .shutdown

def Collector.finish : Collector Tag Value Exception → Answer Tag Value Exception
  | .joinAll results => .results results
  | .drain (some failure) _ => .error failure
  | .drain none _ => .ready
  | .shutdown => .ready

end Values

section Operations

variable {Task Tag Value Exception : Type}

def Request.operation (request : Request Tag Value Exception) :
    Operation Task Tag Value Exception where
  request := request
  collector := request.collector
  cancelled := false
  dropped := false
  phase := .created
  polls := 0
  woken := false

/-- An operation is outstanding from its first poll until it resolves or is destroyed. -/
def Phase.outstanding : Phase Task Tag Value Exception → Bool
  | .begun | .taking _ | .sweeping .. | .checking | .pending => true
  | .created | .ready _ | .destroyed => false

/-- The nodes that an operation has popped but not taken the results of. -/
def Phase.toProcess : Phase Task Tag Value Exception → List Task
  | .taking task => [task]
  | .sweeping _ _ toProcess => toProcess
  | _ => []

/-- A bulk future is not polled again once it is ready, the stream is. -/
def Operation.pollable (operation : Operation Task Tag Value Exception) : Bool :=
  match operation.phase with
  | .created | .pending => true
  | .ready _ => operation.request.isNext
  | _ => false

/-- The destructor does not run inside a poll. -/
def Operation.destroyable (operation : Operation Task Tag Value Exception) : Bool :=
  match operation.phase with
  | .created | .pending | .ready _ => true
  | _ => false

end Operations

namespace JoinSetState

variable {Task Consumer Tag Value Exception : Type} [DecidableEq Task] [DecidableEq Consumer]
variable (state : JoinSetState Task Consumer Tag Value Exception)

def setNode (task : Task)
    (node : TaskNode Tag Value Exception) : JoinSetState Task Consumer Tag Value Exception :=
  { state with node := Function.update state.node task (some node) }

def setConsumer (consumer : Consumer)
    (operation : Operation Task Tag Value Exception) :
    JoinSetState Task Consumer Tag Value Exception :=
  { state with consumer := Function.update state.consumer consumer (some operation) }

def spawn (task : Task) (tag : Tag) : JoinSetState Task Consumer Tag Value Exception :=
  { state.setNode task (.new tag) with pendingHandles := state.pendingHandles ++ [task] }

def onTaskComplete (task : Task)
    (node : TaskNode Tag Value Exception) (outcome : Outcome Value Exception) :
    JoinSetState Task Consumer Tag Value Exception :=
  if node.task then
    { state.setNode task { node with
        task := false
        completed := true
        progress := .notified outcome } with
      pendingHandles := state.pendingHandles.erase task
      idleHandles := state.idleHandles ++ [task]
      recorded := state.recorded ++ [task]
      consumerWaker := none
      inFlight := state.consumerWaker.toList ++ state.inFlight }
  else state.setNode task { node with progress := .notified outcome }

def cancelAll : JoinSetState Task Consumer Tag Value Exception :=
  { state with
    node := fun task =>
      if task ∈ state.pendingHandles then (state.node task).map TaskNode.requestCancel
      else state.node task }

def cancelAllOnce (consumer : Consumer)
    (operation : Operation Task Tag Value Exception) (phase : Phase Task Tag Value Exception) :
    JoinSetState Task Consumer Tag Value Exception :=
  if operation.cancelled then state.setConsumer consumer { operation with phase := phase }
  else state.cancelAll.setConsumer consumer { operation with cancelled := true, phase := phase }

def beginPoll (consumer : Consumer)
    (operation : Operation Task Tag Value Exception) :
    JoinSetState Task Consumer Tag Value Exception :=
  let polled := { operation with polls := operation.polls + 1, woken := false }
  if operation.request.cancelsAtStart then state.cancelAllOnce consumer polled .begun
  else state.setConsumer consumer { polled with phase := .begun }

def pollNext (consumer : Consumer)
    (operation : Operation Task Tag Value Exception) :
    JoinSetState Task Consumer Tag Value Exception :=
  match state.idleHandles with
  | task :: rest =>
    { state.setConsumer consumer { operation with phase := .taking task } with
      idleHandles := rest
      taken := state.taken ++ [(consumer, task)] }
  | [] =>
    if state.pendingHandles ≠ [] then
      { state.setConsumer consumer { operation with phase := .pending } with
        consumerWaker := some (consumer, operation.polls) }
    else state.setConsumer consumer { operation with phase := .ready (.item none) }

def sweepIdle (consumer : Consumer)
    (operation : Operation Task Tag Value Exception) :
    JoinSetState Task Consumer Tag Value Exception :=
  let anyPending := !state.pendingHandles.isEmpty
  { state.setConsumer consumer
      { operation with phase := .sweeping anyPending false state.idleHandles } with
    idleHandles := []
    taken := state.taken ++ state.idleHandles.map (consumer, ·)
    consumerWaker := if anyPending then some (consumer, operation.polls) else state.consumerWaker }

def receive (operation : Operation Task Tag Value Exception)
    (result : JoinResult Tag Value Exception) (anyPending failed : Bool) (rest : List Task) :
    Operation Task Tag Value Exception :=
  { operation with
    collector := if operation.dropped then operation.collector else operation.collector.add result
    phase := .sweeping anyPending (failed || !result.outcome.hasValue) rest }

def takeFrom (consumer : Consumer)
    (task : Task)
    (received : JoinResult Tag Value Exception → Operation Task Tag Value Exception) :
    JoinSetState Task Consumer Tag Value Exception :=
  match (state.node task).bind TaskNode.takeResult with
  | some (result, node) =>
    { (state.setNode task node).setConsumer consumer (received result) with
      handedOut := state.handedOut ++ [(consumer, task, result)] }
  | none => { state with failed := true }

def settle (consumer : Consumer)
    (operation : Operation Task Tag Value Exception) (anyPending failed : Bool) :
    JoinSetState Task Consumer Tag Value Exception :=
  let phase := if anyPending then .pending else .checking
  if failed && decide (operation.request.onError = .cancel) then
    state.cancelAllOnce consumer operation phase
  else state.setConsumer consumer { operation with phase := phase }

def check (consumer : Consumer)
    (operation : Operation Task Tag Value Exception) :
    JoinSetState Task Consumer Tag Value Exception :=
  if state.pendingHandles ≠ [] ∨ state.idleHandles ≠ [] then
    { state.setConsumer consumer { operation with phase := .pending } with
      consumerWaker := some (consumer, operation.polls) }
  else
    state.setConsumer consumer { operation with
      phase := .ready (if operation.dropped then .dropped else operation.collector.finish) }

def awaken (waker : Consumer × Nat) : JoinSetState Task Consumer Tag Value Exception :=
  { state with
    inFlight := state.inFlight.erase waker
    consumer := fun consumer =>
      if consumer = waker.1 then
        (state.consumer consumer).map fun operation => { operation with woken := true }
      else state.consumer consumer }

def step :
    Move Task Consumer Tag Value Exception →
      Option (JoinSetState Task Consumer Tag Value Exception)
  | .spawn task tag => if (state.node task).isNone then some (state.spawn task tag) else none
  | .cancelTask task =>
    (state.node task).map fun node => state.setNode task { node with cancelRequested := true }
  | .finish task outcome =>
    match state.node task with
    | some node =>
      match node.progress with
      | .running => some (state.setNode task (node.finish outcome))
      | _ => none
    | none => none
  | .complete task =>
    match state.node task with
    | some node =>
      match node.progress with
      | .finished outcome => some (state.onTaskComplete task node outcome)
      | _ => none
    | none => none
  | .wake waker => if waker ∈ state.inFlight then some (state.awaken waker) else none
  | .cancelAll => some state.cancelAll
  | .request consumer request =>
    if (state.consumer consumer).isNone then some (state.setConsumer consumer request.operation)
    else none
  | .cancel consumer =>
    match state.consumer consumer with
    | some operation =>
      if operation.destroyable ∧ operation.request.isNext = false then
        some (state.cancelAllOnce consumer { operation with dropped := true } operation.phase)
      else none
    | none => none
  | .destroy consumer =>
    match state.consumer consumer with
    | some operation =>
      if operation.destroyable then
        some (state.setConsumer consumer { operation with phase := .destroyed })
      else none
    | none => none
  | .poll consumer =>
    match state.consumer consumer with
    | some operation =>
      if operation.pollable then some (state.beginPoll consumer operation) else none
    | none => none
  | .sweep consumer =>
    match state.consumer consumer with
    | some operation =>
      match operation.phase with
      | .begun =>
        if operation.request.isNext then some (state.pollNext consumer operation)
        else some (state.sweepIdle consumer operation)
      | _ => none
    | none => none
  | .take consumer =>
    match state.consumer consumer with
    | some operation =>
      match operation.phase with
      | .taking task =>
        some (state.takeFrom consumer task fun result =>
          { operation with phase := .ready (.item (some result)) })
      | .sweeping anyPending failed (task :: rest) =>
        some (state.takeFrom consumer task fun result =>
          receive operation result anyPending failed rest)
      | _ => none
    | none => none
  | .settle consumer =>
    match state.consumer consumer with
    | some operation =>
      match operation.phase with
      | .sweeping anyPending failed [] =>
        some (state.settle consumer operation anyPending failed)
      | _ => none
    | none => none
  | .check consumer =>
    match state.consumer consumer with
    | some operation =>
      match operation.phase with
      | .checking => some (state.check consumer operation)
      | _ => none
    | none => none

end JoinSetState

def newJoinSet (Task Consumer Tag Value Exception : Type) :
    JoinSetState Task Consumer Tag Value Exception where
  pendingHandles := []
  idleHandles := []
  consumerWaker := none
  node := fun _ => none
  consumer := fun _ => none
  inFlight := []
  recorded := []
  taken := []
  handedOut := []
  failed := false

def joinSetMachine (Task Consumer Tag Value Exception : Type) [DecidableEq Task]
    [DecidableEq Consumer] :
    Machine (JoinSetState Task Consumer Tag Value Exception)
      (Move Task Consumer Tag Value Exception) where
  initial := newJoinSet Task Consumer Tag Value Exception
  step := JoinSetState.step

/-! ## What a move can do -/

section Effects

variable {Task Consumer Tag Value Exception : Type} [DecidableEq Task] [DecidableEq Consumer]
  {state next : JoinSetState Task Consumer Tag Value Exception}

inductive Effect (state : JoinSetState Task Consumer Tag Value Exception) :
    Move Task Consumer Tag Value Exception →
      JoinSetState Task Consumer Tag Value Exception → Prop
  | spawned (task : Task) (tag : Tag) (fresh : state.node task = none) :
      Effect state (.spawn task tag) (state.spawn task tag)
  | cancelledTask (task : Task) (node : TaskNode Tag Value Exception)
      (found : state.node task = some node) :
      Effect state (.cancelTask task) (state.setNode task { node with cancelRequested := true })
  | finished (task : Task) (outcome : Outcome Value Exception)
      (node : TaskNode Tag Value Exception) (found : state.node task = some node)
      (running : node.progress = .running) :
      Effect state (.finish task outcome) (state.setNode task (node.finish outcome))
  | completed (task : Task) (outcome : Outcome Value Exception)
      (node : TaskNode Tag Value Exception) (found : state.node task = some node)
      (finished : node.progress = .finished outcome) :
      Effect state (.complete task) (state.onTaskComplete task node outcome)
  | woken (waker : Consumer × Nat) (flying : waker ∈ state.inFlight) :
      Effect state (.wake waker) (state.awaken waker)
  | cancelledAll : Effect state .cancelAll state.cancelAll
  | requested (consumer : Consumer) (request : Request Tag Value Exception)
      (fresh : state.consumer consumer = none) :
      Effect state (.request consumer request) (state.setConsumer consumer request.operation)
  | cancelled (consumer : Consumer) (operation : Operation Task Tag Value Exception)
      (known : state.consumer consumer = some operation) (outside : operation.destroyable)
      (bulk : operation.request.isNext = false) :
      Effect state (.cancel consumer)
        (state.cancelAllOnce consumer { operation with dropped := true } operation.phase)
  | destroyed (consumer : Consumer) (operation : Operation Task Tag Value Exception)
      (known : state.consumer consumer = some operation) (outside : operation.destroyable) :
      Effect state (.destroy consumer)
        (state.setConsumer consumer { operation with phase := .destroyed })
  | polled (consumer : Consumer) (operation : Operation Task Tag Value Exception)
      (known : state.consumer consumer = some operation) (outside : operation.pollable) :
      Effect state (.poll consumer) (state.beginPoll consumer operation)
  | polledNext (consumer : Consumer) (operation : Operation Task Tag Value Exception)
      (known : state.consumer consumer = some operation) (begun : operation.phase = .begun)
      (stream : operation.request.isNext) :
      Effect state (.sweep consumer) (state.pollNext consumer operation)
  | swept (consumer : Consumer) (operation : Operation Task Tag Value Exception)
      (known : state.consumer consumer = some operation) (begun : operation.phase = .begun)
      (bulk : operation.request.isNext = false) :
      Effect state (.sweep consumer) (state.sweepIdle consumer operation)
  | tookNext (consumer : Consumer) (operation : Operation Task Tag Value Exception) (task : Task)
      (known : state.consumer consumer = some operation)
      (taking : operation.phase = .taking task) :
      Effect state (.take consumer) (state.takeFrom consumer task fun result =>
        { operation with phase := .ready (.item (some result)) })
  | took (consumer : Consumer) (operation : Operation Task Tag Value Exception) (task : Task)
      (anyPending failed : Bool) (rest : List Task)
      (known : state.consumer consumer = some operation)
      (sweeping : operation.phase = .sweeping anyPending failed (task :: rest)) :
      Effect state (.take consumer) (state.takeFrom consumer task fun result =>
        JoinSetState.receive operation result anyPending failed rest)
  | settled (consumer : Consumer) (operation : Operation Task Tag Value Exception)
      (anyPending failed : Bool) (known : state.consumer consumer = some operation)
      (sweeping : operation.phase = .sweeping anyPending failed []) :
      Effect state (.settle consumer) (state.settle consumer operation anyPending failed)
  | checked (consumer : Consumer) (operation : Operation Task Tag Value Exception)
      (known : state.consumer consumer = some operation)
      (checking : operation.phase = .checking) :
      Effect state (.check consumer) (state.check consumer operation)

theorem effect (step : state.step move = some next) : Effect state move next := by
  cases move with simp only [JoinSetState.step] at step
  | spawn task tag =>
    rcases of_guard step with ⟨fresh, rfl⟩
    exact .spawned task tag (Option.isNone_iff_eq_none.mp fresh)
  | cancelTask task =>
    rcases Option.map_eq_some_iff.mp step with ⟨node, found, made⟩
    subst made
    exact .cancelledTask task node found
  | wake waker =>
    rcases of_guard step with ⟨flying, rfl⟩
    exact .woken waker flying
  | cancelAll =>
    cases step
    exact .cancelledAll
  | request consumer request =>
    rcases of_guard step with ⟨fresh, rfl⟩
    exact .requested consumer request (Option.isNone_iff_eq_none.mp fresh)
  | finish task outcome =>
    split at step
    · rename_i node found
      split at step <;> cases step
      exact .finished task outcome node found ‹_›
    · cases step
  | complete task =>
    split at step
    · rename_i node found
      split at step <;> cases step
      exact .completed task _ node found ‹_›
    · cases step
  | cancel consumer =>
    split at step
    · rcases of_guard step with ⟨⟨outside, bulk⟩, rfl⟩
      exact .cancelled consumer _ ‹_› outside bulk
    · cases step
  | destroy consumer =>
    split at step
    · rcases of_guard step with ⟨outside, rfl⟩
      exact .destroyed consumer _ ‹_› outside
    · cases step
  | poll consumer =>
    split at step
    · rcases of_guard step with ⟨outside, rfl⟩
      exact .polled consumer _ ‹_› outside
    · cases step
  | sweep consumer =>
    split at step
    · rename_i operation known
      split at step
      · split at step <;> cases step
        · exact .polledNext consumer operation known ‹_› ‹_›
        · exact .swept consumer operation known ‹_› (Bool.eq_false_iff.mpr ‹_›)
      · cases step
    · cases step
  | take consumer =>
    split at step
    · rename_i operation known
      split at step <;> cases step
      · exact .tookNext consumer operation _ known ‹_›
      · exact .took consumer operation _ _ _ _ known ‹_›
    · cases step
  | settle consumer =>
    split at step
    · rename_i operation known
      split at step <;> cases step
      exact .settled consumer operation _ _ known ‹_›
    · cases step
  | check consumer =>
    split at step
    · rename_i operation known
      split at step <;> cases step
      exact .checked consumer operation known ‹_›
    · cases step

end Effects

end CoroRuntime.JoinSet
