import CoroRuntime.Foundation.Counting
import CoroRuntime.Foundation.Execution

/-! # The blocking pool

`BlockingPool`: a queue of jobs and the threads that run them. A thread waits for work on
a condition variable with a keep-alive timeout. A wait may also end with nothing to do, so
that which thread a notification reaches makes no difference to what can happen.
-/

namespace CoroRuntime.BlockingPool

open Foundation

inductive Summons
  | notifyOne
  | startThread
  | nobody
  deriving DecidableEq, Repr

/-- Where a thread is in `worker_loop`. -/
inductive Worker (Job : Type u)
  /-- started, and not yet inside its first critical section -/
  | starting
  | waiting
  | running (job : Job)
  /-- about to call `shutdown_progress` -/
  | reporting
  | returning
  | exited
  deriving DecidableEq, Repr

structure Pool (Job : Type u) where
  queue : List Job := []
  /-- the tasks that are queued or running, the latest first -/
  live : List Job := []
  totalThreads : Nat := 0
  idleThreads : Nat := 0
  closed : Bool := false
  stop : Bool := false
  deriving DecidableEq, Repr

structure Submitted (Job : Type u) where
  pool : Pool Job
  summons : Summons
  /-- the job is cancelled, and announced after the unlock -/
  closed : Bool

namespace Pool

variable {Job : Type u}

def submit (maxThreads : Nat) (job : Job) (pool : Pool Job) : Except String (Submitted Job) :=
  if pool.stop then .error "coro::spawn_blocking(): the runtime has been shut down"
  else
    let queued := { pool with live := job :: pool.live, queue := pool.queue ++ [job] }
    if 0 < pool.idleThreads then .ok ⟨queued, .notifyOne, pool.closed⟩
    else if pool.totalThreads < maxThreads then
      .ok ⟨{ queued with totalThreads := pool.totalThreads + 1 }, .startThread, pool.closed⟩
    else .ok ⟨queued, .nobody, pool.closed⟩

def hasWork (pool : Pool Job) : Bool := !pool.queue.isEmpty || pool.stop

/-- The rest of the critical section after `wait_for`: a job, or the way out -/
def leaveWait (pool : Pool Job) : Worker Job × Pool Job :=
  let pool := { pool with idleThreads := pool.idleThreads - 1 }
  match pool.queue with
  | job :: rest => (.running job, { pool with queue := rest })
  | [] => (.exited, { pool with totalThreads := pool.totalThreads - 1 })

/-- `wait_for` looks at its predicate before each sleep. -/
def wait (pool : Pool Job) : Worker Job × Pool Job :=
  if pool.hasWork then pool.leaveWait else (.waiting, pool)

def enter (pool : Pool Job) : Worker Job × Pool Job :=
  { pool with idleThreads := pool.idleThreads + 1 }.wait

/-- `unlink_live`, and where the thread goes -/
def finish [DecidableEq Job] (job : Job) (pool : Pool Job) : Worker Job × Pool Job :=
  (if pool.closed then .reporting else .returning, { pool with live := pool.live.erase job })

def beginShutdown (pool : Pool Job) : List Job × Pool Job :=
  if pool.closed then ([], pool) else (pool.live, { pool with closed := true })

def hasTasks (pool : Pool Job) : Bool := !pool.live.isEmpty

end Pool

/-! ## The machine -/

structure State (Job : Type u) where
  pool : Pool Job := {}
  /-- every thread that was ever started -/
  workers : List (Worker Job) := []
  deriving DecidableEq, Repr

inductive Action (Job : Type u)
  | submit (job : Job)
  | enter (worker : Nat)
  /-- a wait ends for another reason than the timeout -/
  | wake (worker : Nat)
  | timeOut (worker : Nat)
  | finish (worker : Nat)
  | report (worker : Nat)
  | beginShutdown
  | stop
  deriving DecidableEq, Repr

namespace State

variable {Job : Type u}

def submit (maxThreads : Nat) (job : Job) (state : State Job) : Except String (State Job × Bool) :=
  (state.pool.submit maxThreads job).map fun submitted =>
    ({ pool := submitted.pool
       workers := match submitted.summons with
        | .startThread => state.workers ++ [.starting]
        | _ => state.workers },
      submitted.closed)

def place (worker : Nat) (result : Worker Job × Pool Job) (state : State Job) : State Job :=
  { pool := result.2, workers := state.workers.set worker result.1 }

def enter (worker : Nat) (state : State Job) : Option (State Job) :=
  match state.workers[worker]? with
  | some .starting | some .returning => some (state.place worker state.pool.enter)
  | _ => none

def wake (worker : Nat) (state : State Job) : Option (State Job) :=
  match state.workers[worker]? with
  | some .waiting => some (state.place worker state.pool.wait)
  | _ => none

def timeOut (worker : Nat) (state : State Job) : Option (State Job) :=
  match state.workers[worker]? with
  | some .waiting => some (state.place worker state.pool.leaveWait)
  | _ => none

def finish [DecidableEq Job] (worker : Nat) (state : State Job) : Option (State Job) :=
  match state.workers[worker]? with
  | some (.running job) => some (state.place worker (state.pool.finish job))
  | _ => none

def report (worker : Nat) (state : State Job) : Option (State Job) :=
  match state.workers[worker]? with
  | some .reporting => some (state.place worker (.returning, state.pool))
  | _ => none

end State

variable {Job : Type u} [DecidableEq Job] (maxThreads : Nat)

def step (state : State Job) : Action Job → Option (State Job)
  | .submit job =>
    match state.submit maxThreads job with
    | .ok (next, _) => some next
    | .error _ => none
  | .enter worker => state.enter worker
  | .wake worker => state.wake worker
  | .timeOut worker => state.timeOut worker
  | .finish worker => state.finish worker
  | .report worker => state.report worker
  | .beginShutdown => some { state with pool := state.pool.beginShutdown.2 }
  | .stop => some { state with pool := { state.pool with stop := true } }

def machine : Machine (State Job) (Action Job) where
  initial := {}
  step := step maxThreads

end CoroRuntime.BlockingPool
