import CoroRuntime.BlockingPool.Pool

/-! # The jobs of a pool

A job is live from `submit` until its thread unlinks it: it is in the queue, or one thread
runs it.
-/

namespace CoroRuntime.BlockingPool

open Foundation

variable {Job : Type u}

def State.Runs (state : State Job) (job : Job) : Prop := Worker.running job ∈ state.workers

instance [DecidableEq Job] (state : State Job) (job : Job) : Decidable (state.Runs job) :=
  inferInstanceAs (Decidable (_ ∈ _))

def State.Reports (state : State Job) : Prop := Worker.reporting ∈ state.workers

theorem mem_workers {workers : List (Worker Job)} :
    worker ∈ workers ↔ ∃ position : Nat, workers[position]? = some worker :=
  List.mem_iff_getElem?

theorem mem_set {workers : List (Worker Job)} (found : workers[index]? = some old) :
    other ∈ workers.set index new ↔
      other = new ∨ ∃ position, position ≠ index ∧ workers[position]? = some other := by
  have inside := (List.getElem?_eq_some_iff.mp found).1
  rw [mem_workers]
  constructor
  · rintro ⟨position, there⟩
    by_cases here : index = position
    · subst here
      rw [List.getElem?_set_self inside] at there
      cases there
      exact .inl rfl
    · rw [List.getElem?_set_ne here] at there
      exact .inr ⟨position, Ne.symm here, there⟩
  · rintro (rfl | ⟨position, different, there⟩)
    · exact ⟨index, List.getElem?_set_self inside⟩
    · exact ⟨position, by rw [List.getElem?_set_ne (Ne.symm different), there]⟩

/-- The list of live jobs holds the queued ones and those that a thread runs. -/
structure Tracked (state : State Job) : Prop where
  queue_nodup : state.pool.queue.Nodup
  apart : ∀ {job}, state.Runs job → job ∉ state.pool.queue
  once : ∀ {first second : Nat} {job}, state.workers[first]? = some (.running job) →
    state.workers[second]? = some (.running job) → first = second
  live : ∀ job, job ∈ state.pool.live ↔ job ∈ state.pool.queue ∨ state.Runs job
  live_nodup : state.pool.live.Nodup

/-- What a thread's critical section leaves alone, unless the thread ends a job. -/
structure Continues (state next : State Job) : Prop where
  tracked : Tracked next
  live : next.pool.live = state.pool.live
  closed : next.pool.closed = state.pool.closed
  stop : next.pool.stop = state.pool.stop
  runs : ∀ job, state.Runs job → next.Runs job
  reports : state.Reports → next.Reports

namespace Tracked

variable {state next : State Job}

variable (tracked : Tracked state)

include tracked

theorem apart_at {position : Nat} (there : state.workers[position]? = some (.running job)) :
    job ∉ state.pool.queue :=
  tracked.apart (mem_workers.mpr ⟨position, there⟩)

/-- Whoever does not move runs what it has run. -/
theorem runs_place (found : state.workers[worker]? = some old) :
    (state.place worker (new, pool)).Runs job ↔
      new = .running job ∨ state.Runs job ∧ old ≠ .running job := by
  rw [State.Runs, State.place, mem_set found, State.Runs, mem_workers, eq_comm]
  refine or_congr_right ⟨?_, ?_⟩
  · rintro ⟨position, apart, there⟩
    refine ⟨⟨position, there⟩, ?_⟩
    rintro rfl
    exact apart (tracked.once there found)
  · rintro ⟨⟨position, there⟩, other⟩
    refine ⟨position, ?_, there⟩
    rintro rfl
    exact other (Option.some.inj (found.symm.trans there))

/-- A thread moves, and if it runs a job from then on, the job has left the queue. -/
theorem put (found : state.workers[worker]? = some old) (nodup : pool.queue.Nodup)
    (queue : ∀ job ∈ pool.queue, job ∈ state.pool.queue)
    (starts : ∀ job, new = .running job → job ∈ state.pool.queue ∧ job ∉ pool.queue)
    (live : ∀ job, job ∈ pool.live ↔
      job ∈ pool.queue ∨ (state.place worker (new, pool)).Runs job)
    (liveNodup : pool.live.Nodup) : Tracked (state.place worker (new, pool)) := by
  refine ⟨nodup, ?_, ?_, live, liveNodup⟩
  · intro job runs inside
    rcases (tracked.runs_place found).mp runs with is | ⟨before, -⟩
    · exact (starts job is).2 inside
    · exact tracked.apart before (queue job inside)
  · intro first second job one two
    simp only [State.place, List.getElem?_set] at one two
    split at one <;> split at two
    · exact ‹worker = first›.symm.trans ‹worker = second›
    · exact absurd (starts job (of_guard one).2).1 (tracked.apart_at two)
    · exact absurd (starts job (of_guard two).2).1 (tracked.apart_at one)
    · exact tracked.once one two

omit tracked in
theorem reports_place (found : state.workers[worker]? = some old) (silent : old ≠ .reporting)
    (reports : state.Reports) : (state.place worker result).Reports := by
  rcases mem_workers.mp reports with ⟨position, there⟩
  refine (mem_set found).mpr (.inr ⟨position, ?_, there⟩)
  rintro rfl
  exact silent (Option.some.inj (found.symm.trans there))

/-- A thread that runs no job leaves a critical section, maybe with the first job of the
queue. -/
theorem place (found : state.workers[worker]? = some old) (free : ∀ job, old ≠ .running job)
    (silent : old ≠ .reporting) (live : pool.live = state.pool.live)
    (closed : pool.closed = state.pool.closed) (stop : pool.stop = state.pool.stop)
    (taken : (∀ job, new ≠ .running job) ∧ pool.queue = state.pool.queue ∨
      ∃ job, new = .running job ∧ state.pool.queue = job :: pool.queue) :
    Continues state (state.place worker (new, pool)) := by
  have runs : ∀ job, (state.place worker (new, pool)).Runs job ↔
      new = .running job ∨ state.Runs job := by
    intro job
    rw [tracked.runs_place found, and_iff_left (free job)]
  refine ⟨?_, live, closed, stop, fun job before => (runs job).mpr (.inr before),
    reports_place found silent⟩
  have liveNodup : pool.live.Nodup := live ▸ tracked.live_nodup
  rcases taken with ⟨still, queue⟩ | ⟨job, rfl, queue⟩
  · refine tracked.put found (queue ▸ tracked.queue_nodup) (fun _ => queue ▸ id)
      (fun job is => absurd is (still job)) ?_ liveNodup
    intro job
    rw [live, queue, runs, tracked.live, or_iff_right (still job)]
  · have nodup := tracked.queue_nodup
    rw [queue, List.nodup_cons] at nodup
    refine tracked.put found nodup.2 (fun _ inside => queue ▸ List.mem_cons_of_mem _ inside) ?_ ?_
      liveNodup
    · rintro _ ⟨⟩
      exact ⟨queue ▸ List.mem_cons_self, nodup.1⟩
    · intro other
      rw [live, runs, tracked.live, queue, List.mem_cons, Worker.running.injEq, eq_comm,
        or_left_comm, or_assoc]

theorem leaveWait (found : state.workers[worker]? = some old) (free : ∀ job, old ≠ .running job)
    (silent : old ≠ .reporting) {pool : Pool Job}
    (same : pool = { state.pool with idleThreads := pool.idleThreads }) :
    Continues state (state.place worker pool.leaveWait) := by
  have live : pool.live = state.pool.live := by rw [same]
  have closed : pool.closed = state.pool.closed := by rw [same]
  have stop : pool.stop = state.pool.stop := by rw [same]
  have queue : pool.queue = state.pool.queue := by rw [same]
  rw [Pool.leaveWait]
  cases queued : pool.queue with
  | nil =>
    exact tracked.place found free silent live closed stop
      (.inl ⟨nofun, queued.symm.trans queue⟩)
  | cons job rest =>
    exact tracked.place found free silent live closed stop
      (.inr ⟨job, rfl, queue.symm.trans queued⟩)

theorem wait (found : state.workers[worker]? = some old) (free : ∀ job, old ≠ .running job)
    (silent : old ≠ .reporting) {pool : Pool Job}
    (same : pool = { state.pool with idleThreads := pool.idleThreads }) :
    Continues state (state.place worker pool.wait) := by
  rw [Pool.wait]
  split
  · exact tracked.leaveWait found free silent same
  · refine tracked.place found free silent ?_ ?_ ?_ (.inl ⟨nofun, ?_⟩)
    all_goals rw [same]

theorem enter (stepped : state.enter worker = some next) : Continues state next := by
  simp only [State.enter] at stepped
  split at stepped <;> cases stepped
  · rename_i found
    exact tracked.wait found nofun nofun rfl
  · rename_i found
    exact tracked.wait found nofun nofun rfl

theorem wake (stepped : state.wake worker = some next) : Continues state next := by
  simp only [State.wake] at stepped
  split at stepped <;> cases stepped
  rename_i found
  exact tracked.wait found nofun nofun rfl

theorem timeOut (stepped : state.timeOut worker = some next) : Continues state next := by
  simp only [State.timeOut] at stepped
  split at stepped <;> cases stepped
  rename_i found
  exact tracked.leaveWait found nofun nofun rfl

theorem report (stepped : state.report worker = some next) :
    Tracked next ∧ next.pool = state.pool ∧ ∀ job, next.Runs job ↔ state.Runs job := by
  simp only [State.report] at stepped
  split at stepped <;> cases stepped
  rename_i found
  have runs : ∀ job, (state.place worker (.returning, state.pool)).Runs job ↔ state.Runs job := by
    intro job
    rw [tracked.runs_place found, or_iff_right nofun, and_iff_left nofun]
  refine ⟨tracked.put found tracked.queue_nodup (fun _ => id) nofun ?_ tracked.live_nodup, rfl,
    runs⟩
  intro job
  rw [runs, tracked.live]

omit tracked in
/-- A job's thread unlinks it, and reports that if the pool is closed. -/
theorem finish [DecidableEq Job] (tracked : Tracked state)
    (found : state.workers[worker]? = some (.running job)) :
    let next := state.place worker (state.pool.finish job)
    Tracked next ∧ (∀ other, other ∈ next.pool.live ↔ other ≠ job ∧ other ∈ state.pool.live) ∧
      (∀ other, next.Runs other ↔ other ≠ job ∧ state.Runs other) ∧
      (state.Reports ∨ state.pool.closed → next.Reports) ∧
      next.pool.closed = state.pool.closed ∧ next.pool.stop = state.pool.stop := by
  have erased := fun other : Job => tracked.live_nodup.mem_erase_iff (a := other) (b := job)
  have ended : ∀ other, (state.pool.finish job).1 ≠ .running other := by
    intro other
    rw [Pool.finish]
    split <;> nofun
  have runs : ∀ other, (state.place worker (state.pool.finish job)).Runs other ↔
      other ≠ job ∧ state.Runs other := by
    intro other
    rw [tracked.runs_place found, or_iff_right (ended other), and_comm, ne_eq, ne_eq,
      Worker.running.injEq, eq_comm]
  refine ⟨tracked.put found tracked.queue_nodup (fun _ => id) (fun other is =>
    absurd is (ended other)) ?_ (tracked.live_nodup.erase _), erased, runs, ?_, rfl, rfl⟩
  · intro other
    have apart : other ∈ state.pool.queue → other ≠ job := by
      rintro inside rfl
      exact tracked.apart_at found inside
    refine (erased other).trans ?_
    rw [tracked.live, and_or_left, and_iff_right_of_imp apart]
    exact or_congr_right (runs other).symm
  · rintro (reports | closed)
    · exact reports_place found nofun reports
    · exact (mem_set found).mpr (.inl (by rw [Pool.finish, if_pos closed]))

theorem queued (fresh : job ∉ state.pool.live) (queue : next.pool.queue = state.pool.queue ++ [job])
    (live : next.pool.live = job :: state.pool.live) (workers : ∀ (position : Nat) (other : Job),
      next.workers[position]? = some (.running other) ↔
        state.workers[position]? = some (.running other)) :
    Tracked next ∧ ∀ other, next.Runs other ↔ state.Runs other := by
  have runs : ∀ other, next.Runs other ↔ state.Runs other := by
    intro other
    rw [State.Runs, State.Runs, mem_workers, mem_workers]
    exact exists_congr fun position => workers position other
  have away := mt (tracked.live job).mpr fresh
  rw [not_or] at away
  refine ⟨⟨?_, ?_, ?_, ?_, ?_⟩, runs⟩
  · rw [queue, List.nodup_append_comm]
    exact List.nodup_cons.mpr ⟨away.1, tracked.queue_nodup⟩
  · intro other running
    rw [runs] at running
    rw [queue, List.mem_append, List.mem_singleton]
    rintro (inside | rfl)
    · exact tracked.apart running inside
    · exact away.2 running
  · intro first second other one two
    exact tracked.once ((workers first other).mp one) ((workers second other).mp two)
  · intro other
    rw [live, queue, runs, List.mem_cons, List.mem_append, List.mem_singleton, tracked.live,
      or_left_comm, or_assoc]
  · rw [live]
    exact List.nodup_cons.mpr ⟨fresh, tracked.live_nodup⟩

theorem submit (fresh : job ∉ state.pool.live)
    (submitted : state.submit maxThreads job = .ok (next, closed)) :
    (Tracked next ∧ ∀ other, next.Runs other ↔ state.Runs other) ∧
      next.pool.live = job :: state.pool.live ∧ closed = state.pool.closed ∧
      next.pool.closed = state.pool.closed ∧ next.pool.stop = state.pool.stop ∧
      (state.Reports → next.Reports) := by
  simp only [State.submit, Pool.submit] at submitted
  split at submitted
  · cases submitted
  split at submitted
  · cases submitted
    exact ⟨tracked.queued fresh rfl rfl fun _ _ => Iff.rfl, rfl, rfl, rfl, rfl, id⟩
  split at submitted
  · cases submitted
    refine ⟨tracked.queued fresh rfl rfl ?_, rfl, rfl, rfl, rfl, ?_⟩
    · grind
    · exact List.mem_append_left _
  · cases submitted
    exact ⟨tracked.queued fresh rfl rfl fun _ _ => Iff.rfl, rfl, rfl, rfl, rfl, id⟩

end Tracked

def submitsFresh (state : State Job) : Action Job → Prop
  | .submit job => job ∉ state.pool.live
  | _ => True

instance [DecidableEq Job] (state : State Job) (action : Action Job) :
    Decidable (submitsFresh state action) := by
  unfold submitsFresh
  split <;> infer_instance

/-- In every run a live job is in the queue or run by one thread, and not both. -/
theorem jobs_tracked [DecidableEq Job] {state : State Job} (maxThreads : Nat)
    (reached : (machine maxThreads).Reaches submitsFresh state) : Tracked state := by
  have initially : Tracked ({} : State Job) := by constructor <;> simp [State.Runs]
  refine reached.invariant Tracked ?_ initially
  intro state action next tracked fresh stepped
  cases action with simp only [machine, step] at stepped
  | submit job =>
    split at stepped <;> cases stepped
    rename_i submitted
    exact (tracked.submit fresh submitted).1.1
  | enter worker => exact (tracked.enter stepped).tracked
  | wake worker => exact (tracked.wake stepped).tracked
  | timeOut worker => exact (tracked.timeOut stepped).tracked
  | finish worker =>
    simp only [State.finish] at stepped
    split at stepped <;> cases stepped
    rename_i found
    exact (tracked.finish found).1
  | report worker => exact (tracked.report stepped).1
  | beginShutdown =>
    cases stepped
    unfold Pool.beginShutdown
    split
    all_goals exact { tracked with }
  | stop =>
    cases stepped
    exact { tracked with }

theorem jobs_tracked_running : ∃ state : State Nat,
    (machine 2).Reaches submitsFresh state ∧ state.Runs 8 ∧ state.pool.queue = [9] ∧
      Tracked state := by
  refine Foundation.Machine.exists_of_exec
    [.submit 7, .submit 8, .submit 9, .enter 0, .enter 1, .finish 0]
    (by decide +kernel) fun reached => ⟨?_, ?_, jobs_tracked 2 reached⟩
  all_goals decide +kernel

end CoroRuntime.BlockingPool
