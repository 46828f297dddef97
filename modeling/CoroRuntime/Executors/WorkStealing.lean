import CoroRuntime.RunQueue.LocalRunQueue

/-! # The work-stealing executor

`src/runtime/work_stealing_executor.cpp`: the loop of a worker from the LIFO slot to parking,
and what a thread does to make a task runnable. Each access to an atomic, each operation of
a run queue and each critical section is one move. The driver is a lock, a token that an
`unpark()` leaves for the next poll, and whatever code the events run.
-/

namespace CoroRuntime.Executors.WorkStealing

open Foundation
open Function (update)
open RunQueue (localQueueCapacity numTaken)

def maxWorkers : Nat := 64

def eventInterval : Nat := 61

def globalQueueInterval : Nat := 61

def maxLifoPolls : Nat := 3

structure Config where
  workers : Nat
  positive : 0 < workers
  capped : workers ≤ maxWorkers

def Config.maxSearch (config : Config) : Nat := max 1 (config.workers / 2)

/-! ## Queues -/

section

variable {Task : Type u}

/-- `push_or_overflow`: what is in the ring afterwards, and what is to go to the injection
queue -/
def pushOrOverflow (ring : List Task) (task : Task) : List Task × List Task :=
  if ring.length < localQueueCapacity then (ring ++ [task], [])
  else (ring.take numTaken, ring.drop numTaken ++ [task])

/-- `steal_into`: the task to run, and the two rings afterwards -/
def stealInto (source target : List Task) : Option (Task × List Task × List Task) :=
  if localQueueCapacity / 2 < target.length then none
  else
    let count := source.length - source.length / 2
    source[count - 1]?.map fun task =>
      (task, source.drop count, target ++ source.take (count - 1))

end

def Config.want (config : Config) (length remainingSlots : Nat) : Nat :=
  max 1 (min (length / config.workers + 1) (min remainingSlots (localQueueCapacity / 2)))

/-! ## The idle mask -/

def idleBit (index : Nat) : BitVec 64 := 1#64 <<< index

/-- Whom the loop of `flush_wake_batch` unparks: the lowest bits, at most that many -/
def wakeTargets : Nat → BitVec 64 → List Nat
  | 0, _ => []
  | count + 1, idle =>
    if idle = 0 then [] else idle.ctz.toNat :: wakeTargets count (idle &&& (idle - 1))

/-! ## Threads -/

inductive ParkState
  | empty
  | notified
  | parkedDriver
  | parkedCondvar
  deriving DecidableEq, Repr

inductive Thread (config : Config) (Foreign : Type v)
  | worker (index : Fin config.workers)
  | foreign (caller : Foreign)
  deriving DecidableEq, Repr

/-- What a thread has still to do for `enqueue`, `flush_wake_batch` or `unpark_worker` -/
inductive Duty (Task : Type u)
  | none
  /-- push onto the worker's own ring, and then notify or not -/
  | pushing (task : Task) (notify : Bool)
  /-- push what did not fit in the ring onto the injection queue -/
  | spilling (tasks : List Task) (notify : Bool)
  /-- push onto the injection queue; `batch` in `flush_wake_batch` -/
  | injecting (tasks : List Task) (batch : Bool)
  /-- `notify_if_needed`: read `m_searching` -/
  | deciding
  /-- `notify_if_needed`: read `m_idle_mask` -/
  | picking
  /-- `flush_wake_batch`: read `m_idle_mask` -/
  | gathering (count : Nat)
  /-- `unpark_worker` for each of these -/
  | unparking (targets : List Nat)
  /-- `unpark_worker`, after its critical section -/
  | delivering (previous : ParkState) (index : Nat) (targets : List Nat)
  deriving DecidableEq, Repr

namespace Duty

variable {Task : Type u}

def afterPush (notify : Bool) : Duty Task := if notify then .deciding else .none

def unparks : List Nat → Duty Task
  | [] => .none
  | targets => .unparking targets

/-- What `unpark_worker` has left to do after its critical section -/
def afterUnpark (previous : ParkState) (index : Nat) (rest : List Nat) : Duty Task :=
  match previous with
  | .parkedDriver | .parkedCondvar => .delivering previous index rest
  | .empty | .notified => .unparks rest

end Duty

inductive Resume (Task : Type u)
  | run (task : Task)
  | again
  | woken (dispatched : Nat)
  deriving DecidableEq, Repr

inductive Phase (Task : Type u)
  /-- at the head of the loop, before the LIFO slot -/
  | lifo
  | periodic
  | periodicLock
  | own
  | global
  | globalLock
  | refilling (task : Task) (rest : List Task)
  | search
  | entering (current : Nat)
  | sweeping (turn : Nat)
  | rechecking
  | recheckLock
  | leaving (task : Option Task)
  | idling (lastSearcher : Bool)
  | recheckOwn (lastSearcher : Bool)
  | recheckInjection (lastSearcher : Bool)
  /-- `peer_has_tasks` -/
  | looking (peer : Nat)
  /-- `park_worker`: try to get the driver -/
  | parking
  | beforePoll
  /-- inside a turn of the driver, until its poll returns -/
  | turning (blocking : Bool)
  | dispatching (blocking : Bool) (unparked : Bool) (dispatched : Nat)
  /-- `park_worker`, after `try_turn` -/
  | settling (dispatched : Option Nat)
  | waiting (signalled : Bool)
  | clearing (resume : Resume Task)
  | afterTurn (dispatched : Nat) (parked : Bool)
  | stopCheck
  | running (task : Task)
  | turnCheck (yielded : Bool)
  | tryTurn
  /-- the end of a pass, where the task may be destroyed -/
  | ending
  | exited
  /-- a task was taken from an empty queue, or pushed onto a full ring -/
  | undefined
  deriving DecidableEq, Repr

/-- The local variables of `worker_loop` that outlive a pass -/
structure Counters where
  tick : BitVec 32 := 0
  lifoPolls : Nat := 0
  carriedBudget : Nat := 0
  pollsSinceTurn : Nat := 0

structure State (config : Config) (Task : Type u) (Foreign : Type v) where
  injection : List Task := []
  stop : Bool := false
  searching : Nat := 0
  idleMask : BitVec 64 := 0
  /-- who holds `m_turn_mutex` -/
  driver : Option (Fin config.workers) := none
  /-- an `unpark()` of the driver that no turn has taken yet -/
  token : Bool := false
  ring : Fin config.workers → List Task := fun _ => []
  lifo : Fin config.workers → Option Task := fun _ => none
  parkState : Fin config.workers → ParkState := fun _ => .empty
  phase : Fin config.workers → Phase Task := fun _ => .lifo
  counters : Fin config.workers → Counters := fun _ => {}
  duty : Thread config Foreign → Duty Task := fun _ => .none
  /-- the open `WakeBatch`es of each thread, the innermost first -/
  batches : Thread config Foreign → List (List Task) := fun _ => []

inductive Action (config : Config) (Task : Type u) (Foreign : Type v)
  /-- a worker makes the next move of its loop -/
  | advance (worker : Fin config.workers)
  /-- a thread goes on with its duty -/
  | discharge (thread : Thread config Foreign)
  /-- code that runs in a poll, a turn of the driver or another thread wakes a task;
  `refused` if an open batch does not take it -/
  | enqueue (thread : Thread config Foreign) (task : Task) (refused : Bool)
  | openBatch (thread : Thread config Foreign)
  | closeBatch (thread : Thread config Foreign)
  | endPoll (worker : Fin config.workers) (requeue : Bool) (budget : Nat) (yielded : Bool)
  | pollReturn (worker : Fin config.workers)
  /-- the turn handles one event or timer -/
  | dispatch (worker : Fin config.workers)
  | resetUnpark (worker : Fin config.workers)
  | endTurn (worker : Fin config.workers)
  /-- a wait on `park_cv` ends -/
  | wakeUp (worker : Fin config.workers)
  | stop (caller : Foreign)
  deriving DecidableEq, Repr

namespace State

variable {config : Config} {Task : Type u} {Foreign : Type v}

abbrev goto (worker : Fin config.workers) (phase : Phase Task) (state : State config Task Foreign) :
    State config Task Foreign :=
  { state with phase := update state.phase worker phase }

abbrev setRing (worker : Fin config.workers) (ring : List Task)
    (state : State config Task Foreign) :
    State config Task Foreign :=
  { state with ring := update state.ring worker ring }

abbrev setLifo (worker : Fin config.workers) (lifo : Option Task)
    (state : State config Task Foreign) : State config Task Foreign :=
  { state with lifo := update state.lifo worker lifo }

abbrev setPark (worker : Fin config.workers) (parkState : ParkState)
    (state : State config Task Foreign) : State config Task Foreign :=
  { state with parkState := update state.parkState worker parkState }

abbrev setCounters (worker : Fin config.workers) (counters : Counters)
    (state : State config Task Foreign) : State config Task Foreign :=
  { state with counters := update state.counters worker counters }

def takeInjected (worker : Fin config.workers) (found : Task → Phase Task)
    (missing : Phase Task) (state : State config Task Foreign) : State config Task Foreign :=
  match state.injection with
  | [] => state.goto worker missing
  | task :: rest => { state with injection := rest }.goto worker (found task)

def popOwn (worker : Fin config.workers) (found : Task → Phase Task)
    (missing : Phase Task) (state : State config Task Foreign) : State config Task Foreign :=
  match state.ring worker with
  | [] => state.goto worker missing
  | task :: rest => (state.setRing worker rest).goto worker (found task)

def localLen (worker : Fin config.workers) (state : State config Task Foreign) : Nat :=
  (state.ring worker).length + (state.lifo worker).toList.length

/-- `unpark_worker`, outside the lock: `m_driver.unpark()` or `park_cv.notify_one()` -/
def deliver (previous : ParkState) (worker : Fin config.workers)
    (state : State config Task Foreign) : State config Task Foreign :=
  match previous, state.phase worker with
  | .parkedDriver, _ => { state with token := true }
  | .parkedCondvar, .waiting _ => state.goto worker (.waiting true)
  | _, _ => state

variable [DecidableEq Foreign]

abbrev owe (thread : Thread config Foreign) (duty : Duty Task) (state : State config Task Foreign) :
    State config Task Foreign :=
  { state with duty := update state.duty thread duty }

def runLifo (worker : Fin config.workers) (state : State config Task Foreign) :
    State config Task Foreign :=
  let counters := state.counters worker
  match state.lifo worker with
  | none => (state.setCounters worker { counters with lifoPolls := 0 }).goto worker .periodic
  | some task =>
    let state := state.setLifo worker none
    if counters.lifoPolls < maxLifoPolls ∧ counters.carriedBudget ≠ 0 then
      (state.setCounters worker { counters with lifoPolls := counters.lifoPolls + 1 }).goto
        worker (.running task)
    else
      ((state.setCounters worker { counters with lifoPolls := 0 }).owe (.worker worker)
        (.pushing task true)).goto worker .periodic

/-- Step 2: a batch from the injection queue, the first of it to run now -/
def takeBatch (worker : Fin config.workers) (state : State config Task Foreign) :
    State config Task Foreign :=
  match state.injection with
  | [] => state.goto worker .search
  | task :: rest =>
    let want := config.want (rest.length + 1)
      (localQueueCapacity - (state.ring worker).length)
    if want ≤ rest.length + 1 then
      { state with injection := rest.drop (want - 1) }.goto worker
        (.refilling task (rest.take (want - 1)))
    else state.goto worker .undefined

def sweep (worker : Fin config.workers) (turn : Nat) (state : State config Task Foreign) :
    State config Task Foreign :=
  if config.workers ≤ turn then state.goto worker .rechecking
  else
    let victim : Fin config.workers :=
      ⟨(worker + 1 + turn) % config.workers, Nat.mod_lt _ config.positive⟩
    if victim = worker then state.goto worker (.sweeping (turn + 1))
    else
      match stealInto (state.ring victim) (state.ring worker) with
      | none => state.goto worker (.sweeping (turn + 1))
      | some (task, source, target) =>
        ((state.setRing victim source).setRing worker target).goto worker (.leaving (some task))

def leaveSearch (worker : Fin config.workers) (task : Option Task)
    (state : State config Task Foreign) : State config Task Foreign :=
  let last := state.searching == 1
  let state := { state with searching := state.searching - 1 }
  match task with
  | some task => (state.owe (.worker worker) .deciding).goto worker (.running task)
  | none => state.goto worker (.idling last)

/-- Step 4: the look at the injection queue, under its lock -/
def recheck (worker : Fin config.workers) (lastSearcher : Bool)
    (state : State config Task Foreign) : State config Task Foreign :=
  if state.stop ∧ state.injection = [] ∧ state.localLen worker = 0 then
    { state with idleMask := state.idleMask &&& ~~~ idleBit worker }.goto worker .exited
  else
    state.takeInjected worker (fun task => .clearing (.run task))
      (if lastSearcher then .looking 0 else .parking)

def look (worker : Fin config.workers) (peer : Nat) (state : State config Task Foreign) :
    State config Task Foreign :=
  if inside : peer < config.workers then
    if peer ≠ worker ∧ state.ring ⟨peer, inside⟩ ≠ [] then
      state.goto worker (.clearing .again)
    else state.goto worker (.looking (peer + 1))
  else state.goto worker .parking

/-- `park_worker`, after `try_turn` -/
def settle (worker : Fin config.workers) (dispatched : Option Nat)
    (state : State config Task Foreign) : State config Task Foreign :=
  if dispatched = none ∧ state.parkState worker ≠ .notified then
    (state.setPark worker .parkedCondvar).goto worker (.waiting false)
  else (state.setPark worker .empty).goto worker (.clearing (.woken (dispatched.getD 0)))

def clearIdle (worker : Fin config.workers) (resume : Resume Task)
    (state : State config Task Foreign) : State config Task Foreign :=
  { state with idleMask := state.idleMask &&& ~~~ idleBit worker }.goto worker
    (match resume with
      | .run task => .running task
      | .again => .lifo
      | .woken dispatched => .afterTurn dispatched true)

def afterTurn (worker : Fin config.workers) (dispatched : Nat) (parked : Bool)
    (state : State config Task Foreign) : State config Task Foreign :=
  (if 0 < dispatched ∧ 1 < state.localLen worker then state.owe (.worker worker) .deciding
    else state).goto worker (if parked then .stopCheck else .ending)

def checkTurn (worker : Fin config.workers) (yielded : Bool) (state : State config Task Foreign) :
    State config Task Foreign :=
  let counters := state.counters worker
  if eventInterval ≤ counters.pollsSinceTurn + 1 ∨ yielded then
    (state.setCounters worker { counters with pollsSinceTurn := 0 }).goto worker .tryTurn
  else
    (state.setCounters worker { counters with
      pollsSinceTurn := counters.pollsSinceTurn + 1 }).goto worker .ending

/-- Every `kGlobalQueueInterval`-th pass looks at the injection queue first. -/
def checkInterval (worker : Fin config.workers) (state : State config Task Foreign) :
    State config Task Foreign :=
  let counters := state.counters worker
  (state.setCounters worker { counters with tick := counters.tick + 1 }).goto worker
    (if (counters.tick + 1).toNat % globalQueueInterval = 0 ∧ state.injection ≠ [] then
      .periodicLock
    else .own)

def advance (worker : Fin config.workers) (state : State config Task Foreign) :
    Option (State config Task Foreign) :=
  match state.phase worker with
  | .lifo => some (state.runLifo worker)
  | .periodic => some (state.checkInterval worker)
  | .periodicLock => some (state.takeInjected worker .running .own)
  | .own => some (state.popOwn worker .running .global)
  | .global => some (state.goto worker (if state.injection = [] then .search else .globalLock))
  | .globalLock => some (state.takeBatch worker)
  | .refilling task [] => some (state.goto worker (.running task))
  | .refilling task (next :: rest) => some
      (if (state.ring worker).length < localQueueCapacity then
        (state.setRing worker (state.ring worker ++ [next])).goto worker (.refilling task rest)
      else state.goto worker .undefined)
  | .search => some (state.goto worker
      (if state.searching < config.maxSearch then .entering state.searching else .idling false))
  | .entering current => some
      (if state.searching = current then
        { state with searching := state.searching + 1 }.goto worker (.sweeping 0)
      else state.goto worker (.idling false))
  | .sweeping turn => some (state.sweep worker turn)
  | .rechecking => some (state.goto worker
      (if state.injection = [] then .leaving none else .recheckLock))
  | .recheckLock => some (state.takeInjected worker (fun task => .leaving (some task))
      (.leaving none))
  | .leaving task => some (state.leaveSearch worker task)
  | .idling lastSearcher => some ({ state with
      idleMask := state.idleMask ||| idleBit worker }.goto worker (.recheckOwn lastSearcher))
  | .recheckOwn lastSearcher => some (state.popOwn worker (fun task => .clearing (.run task))
      (.recheckInjection lastSearcher))
  | .recheckInjection lastSearcher => some (state.recheck worker lastSearcher)
  | .looking peer => some (state.look worker peer)
  | .parking => some
      (if state.driver = none then { state with driver := some worker }.goto worker .beforePoll
      else state.goto worker (.settling none))
  | .beforePoll => some
      (if state.parkState worker = .notified then
        { state with driver := none }.goto worker (.settling (some 0))
      else (state.setPark worker .parkedDriver).goto worker (.turning true))
  | .settling dispatched => some (state.settle worker dispatched)
  | .clearing resume => some (state.clearIdle worker resume)
  | .afterTurn dispatched parked => some (state.afterTurn worker dispatched parked)
  | .stopCheck => some (state.goto worker
      (if state.stop ∧ state.injection = [] ∧ state.localLen worker = 0 then .exited else .lifo))
  | .turnCheck yielded => some (state.checkTurn worker yielded)
  | .tryTurn => some
      (if state.driver = none then
        { state with driver := some worker }.goto worker (.turning false)
      else state.goto worker .ending)
  | .ending => some (state.goto worker .lifo)
  | .turning _ | .dispatching _ _ _ | .waiting _ | .running _ | .exited | .undefined => none

def discharge (thread : Thread config Foreign) (state : State config Task Foreign) :
    Option (State config Task Foreign) :=
  match state.duty thread with
  | .none => none
  | .pushing task notify =>
    match thread with
    | .foreign _ => none
    | .worker worker =>
      let pushed := pushOrOverflow (state.ring worker) task
      some ((state.setRing worker pushed.1).owe thread
        (if pushed.2 = [] then .afterPush notify else .spilling pushed.2 notify))
  | .spilling tasks notify => some ({ state with
      injection := state.injection ++ tasks }.owe thread (.afterPush notify))
  | .injecting tasks batch => some ({ state with
      injection := state.injection ++ tasks }.owe thread
        (if batch then .gathering tasks.length else .deciding))
  | .deciding => some (state.owe thread (if 0 < state.searching then .none else .picking))
  | .picking => some (state.owe thread (.unparks (wakeTargets 1 state.idleMask)))
  | .gathering count => some (state.owe thread (.unparks (wakeTargets count state.idleMask)))
  | .unparking [] => none
  | .unparking (index :: rest) =>
    if inside : index < config.workers then
      some ((state.setPark ⟨index, inside⟩ .notified).owe thread
        (.afterUnpark (state.parkState ⟨index, inside⟩) index rest))
    else none
  | .delivering previous index rest =>
    if inside : index < config.workers then
      some ((state.owe thread (.unparks rest)).deliver previous ⟨index, inside⟩)
    else none

def runsCode (state : State config Task Foreign) : Thread config Foreign → Bool
  | .foreign _ => true
  | .worker worker =>
    match state.phase worker with
    | .running _ | .dispatching _ _ _ | .ending => true
    | _ => false

/-- `enqueue`, past the test for a batch -/
def route (thread : Thread config Foreign) (task : Task) (state : State config Task Foreign) :
    State config Task Foreign :=
  match thread with
  | .foreign _ => state.owe thread (.injecting [task] false)
  | .worker worker =>
    match state.phase worker, state.lifo worker with
    | .dispatching _ _ _, _ => state.owe thread (.pushing task false)
    | _, none => state.setLifo worker (some task)
    | _, some displaced =>
      (state.setLifo worker (some task)).owe thread (.pushing displaced true)

def setBatches (thread : Thread config Foreign) (batches : List (List Task))
    (state : State config Task Foreign) : State config Task Foreign :=
  { state with batches := update state.batches thread batches }

def enqueue (thread : Thread config Foreign) (task : Task) (refused : Bool)
    (state : State config Task Foreign) : State config Task Foreign :=
  match state.batches thread, refused with
  | batch :: outer, false => state.setBatches thread ((batch ++ [task]) :: outer)
  | _, _ => state.route thread task

end State

variable {config : Config} {Task : Type u} {Foreign : Type v} [DecidableEq Foreign]

def step (state : State config Task Foreign) : Action config Task Foreign →
    Option (State config Task Foreign)
  | .advance worker =>
    match state.duty (.worker worker) with
    | .none => state.advance worker
    | _ => none
  | .discharge thread => state.discharge thread
  | .enqueue thread task refused =>
    match state.duty thread, state.runsCode thread with
    | .none, true => some (state.enqueue thread task refused)
    | _, _ => none
  | .openBatch thread =>
    match state.duty thread, state.runsCode thread with
    | .none, true => some (state.setBatches thread ([] :: state.batches thread))
    | _, _ => none
  | .closeBatch thread =>
    match state.duty thread, state.runsCode thread, state.batches thread with
    | .none, true, [] :: outer => some (state.setBatches thread outer)
    | .none, true, batch :: outer =>
      some ((state.setBatches thread outer).owe thread (.injecting batch true))
    | _, _, _ => none
  | .endPoll worker requeue budget yielded =>
    match state.duty (.worker worker), state.phase worker, state.batches (.worker worker) with
    | .none, .running task, [] =>
      let counters := { state.counters worker with carriedBudget := budget }
      some (((if requeue then state.owe (.worker worker) (.pushing task true)
        else state).setCounters worker counters).goto worker (.turnCheck yielded))
    | _, _, _ => none
  | .pollReturn worker =>
    match state.phase worker with
    | .turning blocking => some (state.goto worker (.dispatching blocking state.token 0))
    | _ => none
  | .dispatch worker =>
    match state.duty (.worker worker), state.phase worker with
    | .none, .dispatching blocking unparked dispatched =>
      some (state.goto worker (.dispatching blocking unparked (dispatched + 1)))
    | _, _ => none
  | .resetUnpark worker =>
    match state.duty (.worker worker), state.phase worker with
    | .none, .dispatching blocking true dispatched =>
      some ({ state with token := false }.goto worker
        (.dispatching blocking false dispatched))
    | _, _ => none
  | .endTurn worker =>
    match state.duty (.worker worker), state.phase worker with
    | .none, .dispatching blocking false dispatched =>
      some ({ state with driver := none }.goto worker
        (if blocking then .settling (some dispatched) else .afterTurn dispatched false))
    | _, _ => none
  | .wakeUp worker =>
    match state.phase worker with
    | .waiting _ =>
      if state.parkState worker = .notified then
        some ((state.setPark worker .empty).goto worker (.clearing (.woken 0)))
      else some (state.goto worker (.waiting false))
    | _ => none
  | .stop caller =>
    match state.duty (.foreign caller) with
    | .none => some ({ state with stop := true }.owe (.foreign caller)
        (.unparks (List.range config.workers)))
    | _ => none

def machine (config : Config) (Task : Type u) (Foreign : Type v) [DecidableEq Foreign] :
    Machine (State config Task Foreign) (Action config Task Foreign) where
  initial := {}
  step := step

end CoroRuntime.Executors.WorkStealing
