import CoroRuntime.BlockingPool.Jobs

/-! # Runtime shutdown

`Runtime::shutdown()` closes the executor and the blocking pool one after the other and
waits until neither holds a task, while tasks and jobs run, spawn others and finish. Each
critical section is one move: of a shard of the executor's owned tasks (an executor with
one mutex has one shard), of the pool, and of the shutdown mutex. Only the thread in
`shutdown()` holds the shutdown mutex over several moves, while it looks at the shards and
the pool.
-/

namespace CoroRuntime.Shutdown

open Foundation

inductive Spawning (Id : Type u)
  | nothing
  /-- born into a closed executor: `cancel_task` comes next -/
  | cancelling (child : Id)
  /-- `shutdown_progress` comes next, and then the `enqueue` of a task -/
  | announcing (child : Option Id)
  | enqueueing (child : Id)
  deriving DecidableEq, Repr

inductive Phase (Id : Type u)
  | uncalled
  /-- in the executor's `begin_shutdown`: the shards below `shard` are closed -/
  | closing (shard : Nat) (collected : List Id)
  | cancellingTasks (rest : List Id)
  | closingPool
  | cancellingJobs (rest : List Id)
  /-- about to lock the shutdown mutex for the check, and whether a batch has been run -/
  | locking (again : Bool)
  /-- the mutex is held, and the shards below `shard` were empty -/
  | looking (shard : Nat) (again : Bool)
  | waiting (notified : Bool)
  /-- the calling thread's loop: a batch of tasks, then another check -/
  | batch
  | parked
  | quiet
  /-- the pool's threads are told to exit -/
  | stopped
  deriving DecidableEq, Repr

def Phase.holdsMutex {Id : Type u} : Phase Id → Bool
  | .looking _ _ => true
  | _ => false

structure Config (Id : Type u) where
  shards : Nat
  shard : Id → Fin shards
  /-- `runs_on_calling_thread` -/
  callingThread : Bool
  maxThreads : Nat

structure State (Id : Type u) where
  /-- the tasks in the executor's shards -/
  owned : List Id := []
  closed : Nat → Bool := fun _ => false
  /-- the tasks that have been enqueued -/
  ready : Id → Bool := fun _ => false
  pool : BlockingPool.State Id := {}
  spawning : Id → Spawning Id := fun _ => .nothing
  /-- the tasks that are gone and whose worker calls `shutdown_progress` next -/
  reporting : List Id := []
  cancelled : Id → Bool := fun _ => false
  phase : Phase Id := .uncalled
  /-- `m_shutdown_driver` is set -/
  driver : Bool := false
  /-- an unpark that no park has consumed -/
  token : Bool := false
  -- what has happened so far
  born : List Id := []
  /-- live when its destination closed, or born after that -/
  doomed : List Id := []

inductive Action (Id : Type u)
  /-- a task or a job from outside, before shutdown -/
  | task (id : Id)
  | job (id : Id)
  | spawnTask (parent child : Id)
  | spawnJob (parent child : Id)
  | goOn (parent : Id)
  | finishTask (id : Id)
  | reportTask (id : Id)
  | enter (worker : Nat)
  | wake (worker : Nat)
  | timeOut (worker : Nat)
  | finishJob (worker : Nat)
  | reportJob (worker : Nat)
  /-- the next move of the thread in `shutdown()` -/
  | shutdown
  /-- a wait or a park ends -/
  | resume
  deriving DecidableEq, Repr

variable {Id : Type u} [DecidableEq Id] (config : Config Id)

namespace State

def Runs (state : State Id) (id : Id) : Prop :=
  id ∈ state.owned ∧ state.ready id ∨ state.pool.Runs id

instance (state : State Id) (id : Id) : Decidable (state.Runs id) :=
  inferInstanceAs (Decidable (_ ∨ _))

def members (shard : Nat) (state : State Id) : List Id :=
  state.owned.filter fun id => (config.shard id).val = shard

def cancel (id : Id) (state : State Id) : State Id :=
  { state with cancelled := Function.update state.cancelled id true }

def become (parent : Id) (spawning : Spawning Id) (state : State Id) : State Id :=
  { state with spawning := Function.update state.spawning parent spawning }

def shutdownProgress (state : State Id) : State Id :=
  { state with
    phase := match state.phase with
      | .waiting _ => .waiting true
      | phase => phase
    token := state.token || state.driver }

/-! ## Spawning -/

/-- The critical section of `schedule`, and what the spawning thread does next -/
def schedule (child : Id) (state : State Id) : Spawning Id × State Id :=
  let closed := state.closed (config.shard child)
  (if closed then .cancelling child else .enqueueing child,
    { state with
      owned := child :: state.owned
      born := child :: state.born
      doomed := if closed then child :: state.doomed else state.doomed })

/-- The critical section of `submit`, and what the spawning thread does next -/
def submit (child : Id) (state : State Id) : Option (Spawning Id × State Id) :=
  match state.pool.submit config.maxThreads child with
  | .error _ => none
  | .ok (pool, closed) =>
    let next := { state with pool, born := child :: state.born }
    if closed then
      some (.announcing none, { next with doomed := child :: state.doomed }.cancel child)
    else some (.nothing, next)

/-- The rest of `schedule` and `submit` -/
def goOn (parent : Id) (state : State Id) : Option (State Id) :=
  match state.spawning parent with
  | .nothing => none
  | .cancelling child => some ((state.cancel child).become parent (.announcing (some child)))
  | .announcing child =>
    if state.phase.holdsMutex then none
    else some (state.shutdownProgress.become parent (match child with
      | some child => .enqueueing child
      | none => .nothing))
  | .enqueueing child =>
    some ({ state with ready := Function.update state.ready child true }.become parent .nothing)

def finishTask (id : Id) (state : State Id) : State Id :=
  { state with
    owned := state.owned.erase id
    reporting := if state.closed (config.shard id) then id :: state.reporting
      else state.reporting }

/-! ## The thread in `shutdown()` -/

/-- The check was false: `wait`, or on with the loop of the calling thread -/
def goAgain (again : Bool) : Phase Id :=
  if config.callingThread then (if again then .parked else .batch) else .waiting false

def shutdown (state : State Id) : Option (State Id) :=
  match state.phase with
  | .uncalled => some { state with phase := .closing 0 [] }
  | .closing shard collected =>
    if shard < config.shards then
      some { state with
        closed := Function.update state.closed shard true
        doomed := state.members config shard ++ state.doomed
        phase := .closing (shard + 1) (collected ++ state.members config shard) }
    else some { state with phase := .cancellingTasks collected }
  | .cancellingTasks [] => some { state with phase := .closingPool }
  | .cancellingTasks (id :: rest) =>
    some { state.cancel id with phase := .cancellingTasks rest }
  | .closingPool =>
    let closed := state.pool.pool.beginShutdown
    some { state with
      pool := { state.pool with pool := closed.2 }
      doomed := closed.1 ++ state.doomed
      phase := .cancellingJobs closed.1 }
  | .cancellingJobs (id :: rest) => some { state.cancel id with phase := .cancellingJobs rest }
  | .cancellingJobs [] =>
    some { state with driver := config.callingThread, phase := .locking false }
  | .locking again => some { state with phase := .looking 0 again }
  | .looking shard again =>
    if shard < config.shards then
      some { state with
        phase := if state.members config shard = [] then .looking (shard + 1) again
          else goAgain config again }
    else
      some { state with
        phase := if state.pool.pool.hasTasks then goAgain config again else .quiet }
  | .batch => some { state with phase := .locking true }
  | .quiet =>
    some { state with
      pool := { state.pool with pool := { state.pool.pool with stop := true } }
      phase := .stopped }
  | .waiting _ | .parked | .stopped => none

/-- A wait or a park ends, for whatever reason. -/
def resume (state : State Id) : Option (State Id) :=
  match state.phase with
  | .waiting _ => some { state with phase := .locking false }
  | .parked => some { state with token := false, phase := .locking false }
  | _ => none

end State

/-! ## The machine -/

def Fresh (state : State Id) (id : Id) : Prop := id ∉ state.born

instance (state : State Id) (id : Id) : Decidable (Fresh state id) :=
  inferInstanceAs (Decidable (_ ∉ _))

def MaySpawn (state : State Id) (parent child : Id) : Prop :=
  state.Runs parent ∧ state.spawning parent = .nothing ∧ Fresh state child

instance (state : State Id) (parent child : Id) : Decidable (MaySpawn state parent child) :=
  inferInstanceAs (Decidable (_ ∧ _))

def step (state : State Id) : Action Id → Option (State Id)
  | .task id =>
    if state.phase = .uncalled ∧ Fresh state id then
      let next := (state.schedule config id).2
      some { next with ready := Function.update next.ready id true }
    else none
  | .job id =>
    if state.phase = .uncalled ∧ Fresh state id then (state.submit config id).map (·.2)
    else none
  | .spawnTask parent child =>
    if MaySpawn state parent child then
      let spawned := state.schedule config child
      some (spawned.2.become parent spawned.1)
    else none
  | .spawnJob parent child =>
    if MaySpawn state parent child then
      (state.submit config child).map fun spawned => spawned.2.become parent spawned.1
    else none
  | .goOn parent => state.goOn parent
  | .finishTask id =>
    if id ∈ state.owned ∧ state.ready id ∧ state.spawning id = .nothing then
      some (state.finishTask config id)
    else none
  | .reportTask id =>
    if id ∈ state.reporting ∧ ¬ state.phase.holdsMutex then
      some { state.shutdownProgress with reporting := state.reporting.erase id }
    else none
  | .enter worker => (state.pool.enter worker).map fun pool => { state with pool }
  | .wake worker => (state.pool.wake worker).map fun pool => { state with pool }
  | .timeOut worker => (state.pool.timeOut worker).map fun pool => { state with pool }
  | .finishJob worker =>
    match state.pool.workers[worker]? with
    | some (.running id) =>
      if state.spawning id = .nothing then
        (state.pool.finish worker).map fun pool => { state with pool }
      else none
    | _ => none
  | .reportJob worker =>
    if state.phase.holdsMutex then none
    else (state.pool.report worker).map fun pool => { state.shutdownProgress with pool }
  | .shutdown => state.shutdown config
  | .resume => state.resume

def machine : Machine (State Id) (Action Id) where
  initial := {}
  step := step config

end CoroRuntime.Shutdown
