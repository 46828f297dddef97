import CoroRuntime.Foundation.Execution
import CoroRuntime.Foundation.Updates

/-! # The work-sharing executor

`src/runtime/work_sharing_executor.cpp`: workers with a queue of their own each, one injection
queue for everybody else, and the driver, which at most one idle worker turns while the others
wait on a condition variable. Each critical section of `m_mutex` is one move, and so is each
notification and each unpark outside it.
-/

namespace CoroRuntime.Executors.WorkSharing

open Foundation
open Function (update update_self update_of_ne)

inductive Phase (Task : Type u)
  | popping
  | polling (task : Task)
  /-- about to take `m_mutex` in `wait_for_task`, at first or after a notification -/
  | locking
  /-- blocked in `m_cv.wait` -/
  | waiting
  /-- in the poll of `turn` -/
  | driving
  /-- still in `turn`, and wakers run on this thread -/
  | turned
  | exited
  deriving DecidableEq, Repr

/-- What a thread that is not a worker has yet to do after its critical section. -/
inductive Duty
  | none
  /-- `notify_one`, and whether an unpark of the driver follows -/
  | notifyOne (unparkDriver : Bool)
  | notifyAll (unparkDriver : Bool)
  | unpark
  deriving DecidableEq, Repr

structure State (workers : Nat) (Task : Type u) (Thread : Type v) where
  phase : Fin workers → Phase Task := fun _ => .popping
  localQueue : Fin workers → List Task := fun _ => []
  injection : List Task := []
  stop : Bool := false
  driverHeld : Bool := false
  /-- an unpark that the driver's poll has not consumed -/
  token : Bool := false
  duty : Thread → Duty := fun _ => .none

inductive Action (workers : Nat) (Task : Type u) (Thread : Type v)
  | pop (worker : Fin workers)
  /-- code that runs on the worker's thread makes tasks runnable -/
  | wake (worker : Fin workers) (tasks : List Task)
  /-- the poll is over, and whether the task was woken during it -/
  | polled (worker : Fin workers) (notified : Bool)
  | lock (worker : Fin workers)
  | spurious (worker : Fin workers)
  /-- the driver's poll returns, and whether it has consumed an unpark -/
  | ready (worker : Fin workers) (consumes : Bool)
  /-- the lock is taken again after `turn`; whom `notify_one` reaches if it is called -/
  | release (worker : Fin workers) (target : Option (Fin workers))
  | enqueue (thread : Thread) (task : Task)
  /-- the destructor's critical section -/
  | stop (thread : Thread)
  | notifyOne (thread : Thread) (target : Option (Fin workers))
  | notifyAll (thread : Thread)
  | unpark (thread : Thread)
  /-- an unpark that has nothing to do with this executor -/
  | unparkDriver

namespace State

variable {workers : Nat} {Task : Type u} {Thread : Type v}

/-- `notify_one` wakes a waiter if there is one. -/
def Reaches (state : State workers Task Thread) : Option (Fin workers) → Prop
  | some worker => state.phase worker = .waiting
  | none => ∀ worker, state.phase worker ≠ .waiting

instance [DecidableEq Task] (state : State workers Task Thread) :
    (target : Option (Fin workers)) → Decidable (state.Reaches target)
  | some worker => inferInstanceAs (Decidable (state.phase worker = .waiting))
  | none => inferInstanceAs (Decidable (∀ worker, state.phase worker ≠ .waiting))

abbrev goto (worker : Fin workers) (phase : Phase Task) (state : State workers Task Thread) :
    State workers Task Thread :=
  { state with phase := update state.phase worker phase }

def notify (target : Option (Fin workers)) (state : State workers Task Thread) :
    State workers Task Thread :=
  match target with
  | some worker => state.goto worker .locking
  | none => state

def notifyAll [DecidableEq Task] (state : State workers Task Thread) : State workers Task Thread :=
  { state with
    phase := fun worker =>
      if state.phase worker = .waiting then .locking else state.phase worker }

abbrev push (worker : Fin workers) (tasks : List Task) (state : State workers Task Thread) :
    State workers Task Thread :=
  { state with
    localQueue := update state.localQueue worker (state.localQueue worker ++ tasks) }

/-- The end of `wait_for_task` without a task -/
def nothing (worker : Fin workers) (state : State workers Task Thread) :
    State workers Task Thread :=
  state.goto worker (if state.localQueue worker = [] then .exited else .popping)

/-- One turn of the loop in `wait_for_task`, from the lock to where it is let go -/
def waitForTask (worker : Fin workers) (state : State workers Task Thread) :
    State workers Task Thread :=
  match state.injection with
  | task :: rest => { state.goto worker (.polling task) with injection := rest }
  | [] =>
    if state.stop then state.nothing worker
    else if state.driverHeld then state.goto worker .waiting
    else { state.goto worker .driving with driverHeld := true }

/-- Whether a worker that comes out of the driver leaves it to others -/
def leaves (worker : Fin workers) (state : State workers Task Thread) : Prop :=
  state.localQueue worker ≠ [] ∨ state.injection ≠ [] ∨ state.stop

end State

section Steps

variable {workers : Nat} {Task : Type u} {Thread : Type v} [DecidableEq Task]
  [DecidableEq Thread]

instance (worker : Fin workers) (state : State workers Task Thread) :
    Decidable (state.leaves worker) :=
  inferInstanceAs (Decidable
    (state.localQueue worker ≠ [] ∨ state.injection ≠ [] ∨ state.stop = true))

def Duty.after (unparkDriver : Bool) : Duty := if unparkDriver then .unpark else .none

def State.assign (thread : Thread) (duty : Duty) (state : State workers Task Thread) :
    State workers Task Thread :=
  { state with duty := update state.duty thread duty }

def step (state : State workers Task Thread) :
    Action workers Task Thread → Option (State workers Task Thread)
  | .pop worker =>
    if state.phase worker = .popping then
      some (match state.localQueue worker with
        | task :: rest => { state.goto worker (.polling task) with
            localQueue := update state.localQueue worker rest }
        | [] => state.goto worker .locking)
    else none
  | .wake worker tasks =>
    match state.phase worker with
    | .polling _ | .turned => some (state.push worker tasks)
    | _ => none
  | .polled worker notified =>
    match state.phase worker with
    | .polling task =>
      some ((state.goto worker .popping).push worker (if notified then [task] else []))
    | _ => none
  | .lock worker =>
    if state.phase worker = .locking then some (state.waitForTask worker) else none
  | .spurious worker =>
    if state.phase worker = .waiting then some (state.goto worker .locking) else none
  | .ready worker consumes =>
    if state.phase worker = .driving then
      some { state.goto worker .turned with token := state.token && !consumes }
    else none
  | .release worker target =>
    if state.phase worker = .turned then
      let released := { state with driverHeld := false }
      if state.leaves worker then
        if state.Reaches target then
          let notified := released.notify target
          some (if state.localQueue worker = [] then notified.waitForTask worker
            else notified.nothing worker)
        else none
      else some (released.waitForTask worker)
    else none
  | .enqueue thread task =>
    if state.duty thread = .none then
      some ({ state with injection := state.injection ++ [task] }.assign thread
        (.notifyOne state.driverHeld))
    else none
  | .stop thread =>
    if state.duty thread = .none then
      some ({ state with stop := true }.assign thread (.notifyAll state.driverHeld))
    else none
  | .notifyOne thread target =>
    match state.duty thread with
    | .notifyOne unparkDriver =>
      if state.Reaches target then
        some ((state.notify target).assign thread (.after unparkDriver))
      else none
    | _ => none
  | .notifyAll thread =>
    match state.duty thread with
    | .notifyAll unparkDriver =>
      some (state.notifyAll.assign thread (.after unparkDriver))
    | _ => none
  | .unpark thread =>
    if state.duty thread = .unpark then
      some ({ state with token := true }.assign thread .none)
    else none
  | .unparkDriver => some { state with token := true }

def machine : Machine (State workers Task Thread) (Action workers Task Thread) where
  initial := {}
  step := step

end Steps

/-! ## Who is awake -/

variable {workers : Nat} {Task : Type u} {Thread : Type v}

def Phase.drives : Phase Task → Bool
  | .driving | .turned => true
  | _ => false

def Phase.awake : Phase Task → Bool
  | .popping | .polling _ | .locking | .turned => true
  | _ => false

/-- The worker has found its own queue empty, and nothing has run on its thread since. -/
def Phase.searched : Phase Task → Bool
  | .locking | .waiting | .driving => true
  | _ => false

def Duty.unparks : Duty → Bool
  | .notifyOne unparkDriver | .notifyAll unparkDriver => unparkDriver
  | .unpark => true
  | .none => false

def Duty.notifies : Duty → Bool
  | .notifyOne _ | .notifyAll _ => true
  | _ => false

structure Inv (state : State workers Task Thread) : Prop where
  held : ∀ worker, (state.phase worker).drives → state.driverHeld
  holder : state.driverHeld → ∃ worker, (state.phase worker).drives
  alone : ∀ worker other, (state.phase worker).drives → (state.phase other).drives →
    worker = other
  /-- A worker waits only while the driver is held; who lets it go is awake. -/
  awake : ∀ worker, state.phase worker = .waiting → state.driverHeld = false →
    state.stop ∨ ∃ other, (state.phase other).awake
  /-- The driver is taken only when there is nothing else to do; who brings something
  unparks it. -/
  unparks : ∀ worker, state.phase worker = .driving → state.injection ≠ [] ∨ state.stop →
    state.token ∨ ∃ thread, (state.duty thread).unparks
  notifies : state.stop → ∀ worker, state.phase worker = .waiting →
    ∃ thread unparkDriver, state.duty thread = .notifyAll unparkDriver
  exited : ∀ worker, state.phase worker = .exited → state.stop
  searched : ∀ worker, (state.phase worker).searched → state.localQueue worker = []

/-! ## A worker moves -/

variable {state next : State workers Task Thread} {worker : Fin workers}

/-- One worker goes to the phase `new`, and the others stay where they are. -/
structure Goes (worker : Fin workers) (new : Phase Task)
    (state next : State workers Task Thread) : Prop where
  phase : next.phase = update state.phase worker new
  queues : ∀ other, other ≠ worker → next.localQueue other = state.localQueue other
  injection : next.injection ≠ [] → state.injection ≠ []
  token : next.token = state.token ∨ (state.phase worker).drives
  stop : next.stop = state.stop
  duty : next.duty = state.duty
  held : next.driverHeld = (new.drives || (state.driverHeld && !(state.phase worker).drives))
  takes : new.drives → (state.phase worker).drives ∨ state.driverHeld = false
  searched : new.searched → next.localQueue worker = []

/-- Afterwards it is awake, or somebody holds the driver, or the executor has stopped: that is
all it takes to keep the others from waiting for nobody. -/
structure Moves (worker : Fin workers) (new : Phase Task)
    (state next : State workers Task Thread) : Prop extends Goes worker new state next where
  settled : new.awake ∨ next.driverHeld ∨ next.stop
  drives : new = .driving → next.injection = [] ∧ next.stop = false
  waits : new = .waiting → next.stop = false
  exits : new = .exited → next.stop

theorem Goes.moves (goes : Goes worker new state next) (awake : new.awake) :
    Moves worker new state next where
  toGoes := goes
  settled := .inl awake
  drives is := by simp [is, Phase.awake] at awake
  waits is := by simp [is, Phase.awake] at awake
  exits is := by simp [is, Phase.awake] at awake

theorem Moves.inv (moves : Moves worker new state next) (inv : Inv state) : Inv next := by
  have place : ∀ other, other = worker ∧ next.phase other = new ∨
      other ≠ worker ∧ next.phase other = state.phase other := by
    intro other
    rw [moves.phase]
    by_cases here : other = worker
    · exact .inl ⟨here, by rw [here, update_self]⟩
    · exact .inr ⟨here, update_of_ne here ..⟩
  have yields : ∀ other, other ≠ worker → (state.phase other).drives → ¬ new.drives := by
    intro other apart there drives
    rcases moves.takes drives with mine | free
    · exact apart (inv.alone other worker there mine)
    · cases free.symm.trans (inv.held other there)
  have idle : ∀ other, other ≠ worker → (state.phase other).drives →
      ¬ (state.phase worker).drives :=
    fun other apart there mine => apart (inv.alone other worker there mine)
  constructor
  case held =>
    intro other drives
    rw [moves.held]
    rcases place other with ⟨-, is⟩ | ⟨apart, is⟩ <;> rw [is] at drives
    · rw [drives, Bool.true_or]
    · simp [inv.held other drives, idle other apart drives]
  case holder =>
    intro keeps
    rw [moves.held, Bool.or_eq_true, Bool.and_eq_true, Bool.not_eq_true'] at keeps
    rcases keeps with drives | ⟨held, away⟩
    · exact ⟨worker, by rwa [moves.phase, update_self]⟩
    · rcases inv.holder held with ⟨other, there⟩
      rcases place other with ⟨rfl, -⟩ | ⟨-, is⟩
      · cases away.symm.trans there
      · exact ⟨other, is ▸ there⟩
  case alone =>
    intro first second one two
    rcases place first with ⟨here, is⟩ | ⟨apart, is⟩ <;> rw [is] at one
    · rcases place second with ⟨there, -⟩ | ⟨apart, is⟩
      · exact here.trans there.symm
      · exact absurd one (yields second apart (is ▸ two))
    · rcases place second with ⟨-, is⟩ | ⟨-, is⟩ <;> rw [is] at two
      · exact absurd two (yields first apart one)
      · exact inv.alone first second one two
  case awake =>
    intro _ _ free
    rcases moves.settled with rises | keeps | stopped
    · exact .inr ⟨worker, by rwa [moves.phase, update_self]⟩
    · cases free.symm.trans keeps
    · exact .inl stopped
  case unparks =>
    intro other driving work
    rw [moves.duty]
    rcases place other with ⟨-, is⟩ | ⟨apart, is⟩
    · have nothing := moves.drives (is.symm.trans driving)
      rcases work with queued | stopped
      · exact absurd nothing.1 queued
      · cases nothing.2.symm.trans stopped
    · replace driving := is.symm.trans driving
      have before := inv.unparks other driving (work.imp moves.injection (moves.stop ▸ ·))
      refine before.imp_left fun token => ?_
      rcases moves.token with same | drives
      · exact same.trans token
      · exact absurd drives (idle other apart (driving ▸ rfl))
  case notifies =>
    intro stopped other waits
    rw [moves.duty]
    rcases place other with ⟨-, is⟩ | ⟨-, is⟩
    · cases (moves.waits (is.symm.trans waits)).symm.trans stopped
    · exact inv.notifies (moves.stop ▸ stopped) other (is.symm.trans waits)
  case exited =>
    intro other exited
    rcases place other with ⟨-, is⟩ | ⟨-, is⟩
    · exact moves.exits (is.symm.trans exited)
    · exact moves.stop.trans (inv.exited other (is.symm.trans exited))
  case searched =>
    intro other searched
    rcases place other with ⟨rfl, is⟩ | ⟨apart, is⟩ <;> rw [is] at searched
    · exact moves.searched searched
    · exact (moves.queues other apart).trans (inv.searched other searched)

namespace Inv

variable (inv : Inv state)

include inv

theorem wakes (waits : state.phase worker = .waiting) : Inv (state.goto worker .locking) := by
  have goes : Goes worker .locking state (state.goto worker .locking) :=
    ⟨rfl, fun _ _ => rfl, id, .inl rfl, rfl, rfl, by simp [waits, Phase.drives], nofun,
      fun _ => inv.searched worker (waits ▸ rfl)⟩
  exact (goes.moves rfl).inv inv

theorem notify (reached : state.Reaches target) : Inv (state.notify target) := by
  cases target with
  | none => exact inv
  | some worker => exact inv.wakes reached

/-- The loop in `wait_for_task` as a worker goes through it that has no task of its own, and
the driver, if it had it, no longer. -/
theorem waitForTask (empty : state.localQueue worker = [])
    (free : next = { state with driverHeld := state.driverHeld && !(state.phase worker).drives }) :
    Inv (next.waitForTask worker) := by
  subst free
  simp only [State.waitForTask, State.nothing, if_pos empty]
  split
  · rename_i task rest queued
    refine (Goes.moves (?_ : Goes worker (.polling task) state _) rfl).inv inv
    exact ⟨rfl, fun _ _ => rfl, fun _ => by simp [queued], .inl rfl, rfl, rfl, rfl, nofun, nofun⟩
  · rename_i queued
    split
    · rename_i stopped
      refine Moves.inv ⟨(?_ : Goes worker .exited state _), .inr (.inr stopped),
        nofun, nofun, fun _ => stopped⟩ inv
      exact ⟨rfl, fun _ _ => rfl, id, .inl rfl, rfl, rfl, rfl, nofun, nofun⟩
    · rename_i running
      rw [Bool.not_eq_true] at running
      split
      · rename_i held
        refine Moves.inv ⟨(?_ : Goes worker .waiting state _), .inr (.inl held),
          nofun, fun _ => running, nofun⟩ inv
        exact ⟨rfl, fun _ _ => rfl, id, .inl rfl, rfl, rfl, rfl, nofun, fun _ => empty⟩
      · rename_i free
        have takes : (state.phase worker).drives ∨ state.driverHeld = false := by
          cases drives : (state.phase worker).drives <;> simp_all
        refine Moves.inv ⟨(?_ : Goes worker .driving state _), .inr (.inl rfl),
          fun _ => ⟨queued, running⟩, nofun, nofun⟩ inv
        exact ⟨rfl, fun _ _ => rfl, id, .inl rfl, rfl, rfl, rfl, fun _ => takes, fun _ => empty⟩

omit inv in
theorem notifyAll [DecidableEq Task] (inv : Inv state) : Inv state.notifyAll := by
  have locking : ∀ {worker}, state.phase worker = .waiting →
      state.notifyAll.phase worker = .locking := fun waits => if_pos waits
  have same : ∀ {worker}, state.phase worker ≠ .waiting →
      state.notifyAll.phase worker = state.phase worker := fun differs => if_neg differs
  have nobody : ∀ worker, state.notifyAll.phase worker ≠ .waiting := by grind -ring -linarith
  have drives : ∀ worker, (state.notifyAll.phase worker).drives = (state.phase worker).drives := by
    intro worker
    by_cases waits : state.phase worker = .waiting
    · rw [locking waits, waits]
      rfl
    · rw [same waits]
  refine { inv with
    held := ?_, holder := ?_, alone := ?_, awake := ?_, unparks := ?_, notifies := ?_
    exited := ?_, searched := ?_ }
  · intro worker
    rw [drives]
    exact inv.held worker
  · intro held
    simp only [drives]
    exact inv.holder held
  · intro worker other
    rw [drives, drives]
    exact inv.alone worker other
  · intro worker waits
    exact absurd waits (nobody worker)
  · intro worker driving
    exact inv.unparks worker (by grind)
  · intro _ worker waits
    exact absurd waits (nobody worker)
  · intro worker exited
    exact inv.exited worker (by grind)
  · intro worker searched
    by_cases waits : state.phase worker = .waiting
    · exact inv.searched worker (waits ▸ rfl)
    · exact inv.searched worker (same waits ▸ searched)

/-! ## A thread moves -/

variable [DecidableEq Thread]

/-- The executor's queue and workers stay as they are, and a thread has something else
to do. -/
theorem assign (unparks : (state.duty thread).unparks → duty.unparks)
    (notifies : ∀ unparkDriver, state.duty thread = .notifyAll unparkDriver →
      ∀ worker, state.phase worker ≠ .waiting) : Inv (state.assign thread duty) := by
  refine { inv with unparks := ?_, notifies := ?_ }
  · intro other drives work
    refine (inv.unparks other drives work).imp_right fun present => ?_
    exact exists_update_of_imp (fun duty : Duty => duty.unparks) present unparks
  · intro stopped other waits
    rcases inv.notifies stopped other waits with ⟨caller, unparkDriver, is⟩
    have apart : caller ≠ thread := by
      rintro rfl
      exact notifies unparkDriver is other waits
    exact ⟨caller, unparkDriver, (update_of_ne apart ..).trans is⟩

theorem enqueue (free : state.duty thread = .none) (task : Task) :
    Inv ({ state with injection := state.injection ++ [task] }.assign thread
      (.notifyOne state.driverHeld)) := by
  have assigned : Inv (state.assign thread (.notifyOne state.driverHeld)) :=
    inv.assign (by rw [free]; nofun) (by rw [free]; nofun)
  refine { assigned with unparks := ?_ }
  intro other drives _
  have mine : (update state.duty thread (.notifyOne state.driverHeld) thread).unparks := by
    rw [update_self]
    exact inv.held other (drives ▸ rfl)
  exact .inr ⟨thread, mine⟩

theorem stop (thread : Thread) :
    Inv ({ state with stop := true }.assign thread (.notifyAll state.driverHeld)) := by
  refine { inv with
    awake := fun _ _ _ => .inl rfl, unparks := ?_
    notifies := fun _ _ _ => ⟨thread, _, update_self ..⟩, exited := fun _ _ => rfl }
  intro other drives _
  have mine : (update state.duty thread (.notifyAll state.driverHeld) thread).unparks := by
    rw [update_self]
    exact inv.held other (drives ▸ rfl)
  exact .inr ⟨thread, mine⟩

/-! ## Every move -/

variable [DecidableEq Task]

theorem release (stepped : WorkSharing.step state (.release worker target) = some next) :
    Inv next := by
  simp only [WorkSharing.step, Option.ite_none_right_eq_some] at stepped
  rcases stepped with ⟨turned, stepped⟩
  have held : state.driverHeld := inv.held worker (turned ▸ rfl)
  split at stepped
  · rcases of_guard stepped with ⟨reached, rfl⟩
    have notified := inv.notify reached
    have phase : (state.notify target).phase worker = .turned := by
      cases target with
      | none => exact turned
      | some other =>
        have apart : worker ≠ other := by
          rintro rfl
          cases turned.symm.trans reached
        exact (update_of_ne apart ..).trans turned
    have queue : (state.notify target).localQueue = state.localQueue := by
      cases target <;> rfl
    have order : { state with driverHeld := false }.notify target =
        { state.notify target with driverHeld := false } := by
      cases target <;> rfl
    rw [order]
    split
    · rename_i empty
      refine notified.waitForTask ((congrFun queue worker).trans empty) ?_
      rw [phase, Phase.drives, Bool.not_true, Bool.and_false]
    · rename_i nonempty
      simp only [State.nothing, queue, if_neg nonempty]
      refine (Goes.moves (?_ : Goes worker .popping (state.notify target) _) rfl).inv notified
      exact ⟨rfl, fun other _ => (congrFun queue other).symm, id, .inl rfl, rfl, rfl,
        by simp [phase, Phase.drives], nofun, nofun⟩
  · rename_i stays
    cases stepped
    simp only [State.leaves, not_or, not_not] at stays
    refine inv.waitForTask stays.1 ?_
    rw [turned, Phase.drives, Bool.not_true, Bool.and_false]

theorem step (stepped : WorkSharing.step state action = some next) : Inv next := by
  cases action with simp only [WorkSharing.step] at stepped
  | pop worker =>
    rcases of_guard stepped with ⟨phase, rfl⟩
    split
    · rename_i task rest queued
      refine (Goes.moves (?_ : Goes worker (.polling task) state _) rfl).inv inv
      exact ⟨rfl, fun _ apart => update_of_ne apart .., id, .inl rfl, rfl, rfl,
        by simp [phase, Phase.drives], nofun, nofun⟩
    · rename_i empty
      refine (Goes.moves (?_ : Goes worker .locking state _) rfl).inv inv
      exact ⟨rfl, fun _ _ => rfl, id, .inl rfl, rfl, rfl, by simp [phase, Phase.drives], nofun,
        fun _ => empty⟩
  | wake worker tasks =>
    have same : state.phase = update state.phase worker (state.phase worker) :=
      (Function.update_eq_self ..).symm
    split at stepped <;> cases stepped
    · rename_i task phase
      refine (Goes.moves (?_ : Goes worker (.polling task) state _) rfl).inv inv
      exact ⟨phase ▸ same, fun _ apart => update_of_ne apart .., id, .inl rfl, rfl, rfl,
        by simp [phase, Phase.drives], nofun, nofun⟩
    · rename_i phase
      have drives : (state.phase worker).drives := phase ▸ rfl
      refine (Goes.moves (?_ : Goes worker .turned state _) rfl).inv inv
      exact ⟨phase ▸ same, fun _ apart => update_of_ne apart .., id, .inl rfl, rfl, rfl,
        inv.held worker drives, fun _ => .inl drives, nofun⟩
  | polled worker notified =>
    split at stepped <;> cases stepped
    rename_i task phase
    refine (Goes.moves (?_ : Goes worker .popping state _) rfl).inv inv
    exact ⟨rfl, fun _ apart => update_of_ne apart .., id, .inl rfl, rfl, rfl,
      by simp [phase, Phase.drives], nofun, nofun⟩
  | lock worker =>
    rcases of_guard stepped with ⟨phase, rfl⟩
    refine inv.waitForTask (inv.searched worker (phase ▸ rfl)) ?_
    have apart : (state.phase worker).drives = false := phase ▸ rfl
    rw [apart, Bool.not_false, Bool.and_true]
  | spurious worker =>
    rcases of_guard stepped with ⟨phase, rfl⟩
    exact inv.wakes phase
  | ready worker consumes =>
    rcases of_guard stepped with ⟨phase, rfl⟩
    have drives : (state.phase worker).drives := phase ▸ rfl
    refine (Goes.moves (?_ : Goes worker .turned state _) rfl).inv inv
    exact ⟨rfl, fun _ _ => rfl, id, .inr drives, rfl, rfl, inv.held worker drives,
      fun _ => .inl drives, nofun⟩
  | release worker target => exact inv.release stepped
  | enqueue thread task =>
    rcases of_guard stepped with ⟨free, rfl⟩
    exact inv.enqueue free task
  | stop thread =>
    rcases of_guard stepped with ⟨-, rfl⟩
    exact inv.stop thread
  | notifyOne thread target =>
    split at stepped
    · rename_i duty
      rcases of_guard stepped with ⟨reached, rfl⟩
      have same : (state.notify target).duty = state.duty := by
        cases target <;> rfl
      refine (inv.notify reached).assign ?_ ?_
      · rw [same, duty]
        intro unparks
        rw [Duty.unparks] at unparks
        rw [unparks]
        rfl
      · rw [same, duty]
        nofun
    · cases stepped
  | notifyAll thread =>
    split at stepped <;> cases stepped
    rename_i duty
    refine inv.notifyAll.assign ?_ ?_
    · intro unparks
      rw [State.notifyAll, duty, Duty.unparks] at unparks
      rw [unparks]
      rfl
    · intro _ _ worker
      grind -ring -linarith [State.notifyAll]
  | unpark thread =>
    rcases of_guard stepped with ⟨duty, rfl⟩
    refine { inv with unparks := fun _ _ _ => .inl rfl, notifies := ?_ }
    intro stopped worker waits
    rcases inv.notifies stopped worker waits with ⟨caller, unparkDriver, is⟩
    have apart : caller ≠ thread := by
      rintro rfl
      cases duty.symm.trans is
    exact ⟨caller, unparkDriver, (update_of_ne apart ..).trans is⟩
  | unparkDriver =>
    cases stepped
    exact { inv with unparks := fun _ _ _ => .inl rfl }

end Inv

theorem inv_initial : Inv ({} : State workers Task Thread) := by
  constructor <;> nofun

/-! ## Nobody sleeps on work -/

def Phase.blocked : Phase Task → Bool
  | .waiting | .driving => true
  | _ => false

def State.InFlight (state : State workers Task Thread) : Prop :=
  state.token ∨ ∃ thread, state.duty thread ≠ .none

structure NeverSleeps (state : State workers Task Thread) : Prop where
  /-- Its own queue is empty. -/
  own : ∀ worker, (state.phase worker).blocked → state.localQueue worker = []
  /-- If the injection queue is not, somebody is awake or will be. -/
  injection : ∀ worker, (state.phase worker).blocked → state.injection ≠ [] →
    (∃ other, (state.phase other).awake) ∨ state.InFlight
  /-- A worker on the condition variable is not alone there. -/
  driver : ∀ worker, state.phase worker = .waiting →
    (∃ other, (state.phase other).drives) ∨ (∃ other, (state.phase other).awake) ∨
      ∃ thread, (state.duty thread).notifies

theorem Phase.blocked_cases {phase : Phase Task} (blocked : phase.blocked) :
    phase = .waiting ∨ phase = .driving := by
  cases phase <;> simp_all [Phase.blocked]

theorem Phase.drives_cases {phase : Phase Task} (drives : phase.drives) :
    phase = .driving ∨ phase = .turned := by
  cases phase <;> simp_all [Phase.drives]

theorem Duty.ne_none_of_unparks {duty : Duty} (unparks : duty.unparks) : duty ≠ .none := by
  rintro rfl
  cases unparks

theorem Inv.neverSleeps (inv : Inv state) : NeverSleeps state := by
  have driver : ∀ worker, state.phase worker = .waiting →
      (∃ other, (state.phase other).drives) ∨ (∃ other, (state.phase other).awake) ∨
        ∃ thread, (state.duty thread).notifies := by
    intro worker waits
    cases held : state.driverHeld with
    | true => exact .inl (inv.holder held)
    | false =>
      rcases inv.awake worker waits held with stopped | awake
      · rcases inv.notifies stopped worker waits with ⟨thread, unparkDriver, is⟩
        exact .inr (.inr ⟨thread, is ▸ rfl⟩)
      · exact .inr (.inl awake)
  -- whoever is in the driver has come out of its poll or is to be unparked
  have turns : ∀ worker, (state.phase worker).drives → state.injection ≠ [] →
      (∃ other, (state.phase other).awake) ∨ state.InFlight := by
    intro worker drives work
    rcases Phase.drives_cases drives with driving | turned
    · rcases inv.unparks worker driving (.inl work) with token | ⟨thread, unparks⟩
      · exact .inr (.inl token)
      · exact .inr (.inr ⟨thread, Duty.ne_none_of_unparks unparks⟩)
    · exact .inl ⟨worker, turned ▸ rfl⟩
  refine ⟨?_, ?_, driver⟩
  · intro worker blocked
    rcases Phase.blocked_cases blocked with is | is
    all_goals exact inv.searched worker (is ▸ rfl)
  · intro worker blocked work
    rcases Phase.blocked_cases blocked with waits | drives
    · rcases driver worker waits with ⟨other, drives⟩ | awake | ⟨thread, notifies⟩
      · exact turns other drives work
      · exact .inl awake
      · refine .inr (.inr ⟨thread, ?_⟩)
        intro silent
        rw [silent] at notifies
        cases notifies
    · exact turns worker (drives ▸ rfl) work

variable [DecidableEq Task] [DecidableEq Thread]

theorem neverSleeps_of_reaches (reached : machine.Reaches admits state) : NeverSleeps state := by
  have inv : Inv state :=
    reached.invariant _ (fun _ _ _ inv _ stepped => inv.step stepped) inv_initial
  exact inv.neverSleeps

/-- The driver is held just while a worker turns it, and no two workers do. -/
theorem driver_held_iff (reached : machine.Reaches anyMove state) :
    (state.driverHeld = true ↔ ∃ worker, (state.phase worker).drives) ∧
      ∀ worker other, (state.phase worker).drives → (state.phase other).drives →
        worker = other := by
  have inv : Inv state :=
    reached.invariant _ (fun _ _ _ inv _ stepped => inv.step stepped) inv_initial
  refine ⟨⟨inv.holder, ?_⟩, inv.alone⟩
  rintro ⟨worker, drives⟩
  exact inv.held worker drives

/-- A worker that comes out of the driver with a task leaves it to the other one. -/
theorem driver_held_iff_driving : ∃ state : State 2 Nat Nat,
    machine.Reaches anyMove state ∧ (state.phase 1).drives ∧
      ∀ worker, (state.phase worker).drives → worker = 1 := by
  refine exists_of_exec
    [.pop 0, .lock 0, .pop 1, .lock 1, .ready 0 false, .wake 0 [7], .release 0 (some 1), .lock 1]
    (by decide +kernel) fun reached => ⟨?_, fun worker drives =>
      (driver_held_iff reached).2 worker 1 drives ?_⟩
  all_goals decide +kernel


end CoroRuntime.Executors.WorkSharing
