import CoroRuntime.BlockingPool.Pool

/-! # Threads for queued jobs

Whether each job in the queue has a thread that is about to take it. A thread that has been
notified counts as idle until it wakes, so a `submit` in between relies on it as well,
although it is needed for an earlier job.
-/

namespace CoroRuntime.BlockingPool

open Foundation

variable {Job : Type u}

namespace Worker

def waits : Worker Job → Bool
  | .waiting => true
  | _ => false

/-- counted by `m_total_threads` -/
def present : Worker Job → Bool
  | .exited => false
  | _ => true

/-- idle, or newly started and not yet running a job -/
def available : Worker Job → Bool
  | .starting | .waiting => true
  | _ => false

end Worker

def State.available (state : State Job) : Nat := state.workers.countP Worker.available

/-- Before `stop`, every queued job has a thread to itself, or no thread may be added. -/
def State.Prompt (maxThreads : Nat) (state : State Job) : Prop :=
  state.pool.stop = false → state.pool.queue.length ≤ state.available ∨
    state.pool.totalThreads = maxThreads

/-- A `submit` that relies on an idle thread finds more of them than queued jobs. -/
def Unhurried (maxThreads : Nat) (state : State Job) : Action Job → Prop
  | .submit _ => 0 < state.pool.idleThreads → state.pool.totalThreads ≠ maxThreads →
      state.pool.queue.length < state.available
  | _ => True

instance (maxThreads : Nat) (state : State Job) (action : Action Job) :
    Decidable (Unhurried maxThreads state action) :=
  match action with
  | .submit _ => inferInstanceAs (Decidable (_ → _))
  | .enter _ | .wake _ | .timeOut _ | .finish _ | .report _ | .beginShutdown | .stop =>
    isTrue trivial

structure Counted (maxThreads : Nat) (state : State Job) : Prop where
  idle : state.pool.idleThreads = state.workers.countP Worker.waits
  total : state.pool.totalThreads = state.workers.countP Worker.present
  bounded : state.pool.totalThreads ≤ maxThreads
  prompt : state.Prompt maxThreads

namespace Counted

variable {maxThreads : Nat} {state : State Job}

section

variable (counted : Counted maxThreads state)

include counted

theorem place (found : state.workers[worker]? = some old)
    (idle : pool.idleThreads + old.waits.toNat = state.pool.idleThreads + new.waits.toNat)
    (total : pool.totalThreads + old.present.toNat =
      state.pool.totalThreads + new.present.toNat)
    (fewer : pool.totalThreads ≤ state.pool.totalThreads) (stop : pool.stop = state.pool.stop)
    (prompt : pool.stop = false → pool.queue = [] ∨
      pool.queue.length + old.available.toNat ≤ state.pool.queue.length + new.available.toNat ∧
        pool.totalThreads = state.pool.totalThreads) :
    Counted maxThreads (state.place worker (new, pool)) := by
  have waits := countP_set found new Worker.waits
  have present := countP_set found new Worker.present
  have available := countP_set found new Worker.available
  have idleBefore := counted.idle
  have totalBefore := counted.total
  constructor
  · simp only [State.place]
    omega
  · simp only [State.place]
    omega
  · exact Nat.le_trans fewer counted.bounded
  · intro running
    have promptBefore := counted.prompt (stop ▸ running)
    simp only [State.place, State.available] at promptBefore running ⊢
    rcases prompt running with empty | ⟨shorter, same⟩
    · left
      rw [empty]
      exact Nat.zero_le _
    · omega

theorem leaveWait (found : state.workers[worker]? = some old) {pool : Pool Job}
    (same : pool = { state.pool with idleThreads := pool.idleThreads })
    (idle : pool.idleThreads + old.waits.toNat = state.pool.idleThreads + 1)
    (present : old.present) : Counted maxThreads (state.place worker pool.leaveWait) := by
  have positive : 0 < state.pool.totalThreads := by
    rw [counted.total]
    exact List.countP_pos_iff.mpr ⟨old, List.mem_of_getElem? found, present⟩
  have queue : pool.queue = state.pool.queue := by rw [same]
  have total : pool.totalThreads = state.pool.totalThreads := by rw [same]
  have stop : pool.stop = state.pool.stop := by rw [same]
  have idlers : old.waits → 0 < state.pool.idleThreads := by
    intro waits
    rw [counted.idle]
    exact List.countP_pos_iff.mpr ⟨old, List.mem_of_getElem? found, waits⟩
  have positive : 0 < pool.idleThreads := by
    cases waits : old.waits with
    | false => rw [waits, Bool.toNat_false] at idle; omega
    | true => have before := idlers waits; rw [waits, Bool.toNat_true] at idle; omega
  have counts : old.present.toNat = 1 := by rw [present]; rfl
  rw [Pool.leaveWait]
  cases queued : pool.queue with
  | nil =>
    refine counted.place found ?_ ?_ ?_ stop fun _ => .inl rfl
    · change pool.idleThreads - 1 + old.waits.toNat = state.pool.idleThreads + 0
      omega
    · change pool.totalThreads - 1 + old.present.toNat = state.pool.totalThreads + 0
      omega
    · change pool.totalThreads - 1 ≤ state.pool.totalThreads
      omega
  | cons job rest =>
    refine counted.place found ?_ ?_ (Nat.le_of_eq total) stop fun _ => .inr ⟨?_, total⟩
    · change pool.idleThreads - 1 + old.waits.toNat = state.pool.idleThreads + 0
      omega
    · change pool.totalThreads + old.present.toNat = state.pool.totalThreads + 1
      omega
    · have taken := congrArg List.length (queue.symm.trans queued)
      have few : old.available.toNat ≤ 1 := Bool.toNat_le _
      rw [List.length_cons] at taken
      change rest.length + old.available.toNat ≤ state.pool.queue.length + 0
      omega

theorem wait (found : state.workers[worker]? = some old) {pool : Pool Job}
    (same : pool = { state.pool with idleThreads := pool.idleThreads })
    (idle : pool.idleThreads + old.waits.toNat = state.pool.idleThreads + 1)
    (present : old.present) : Counted maxThreads (state.place worker pool.wait) := by
  rw [Pool.wait]
  split
  · exact counted.leaveWait found same idle present
  · rename_i nothing
    simp only [Pool.hasWork, Bool.or_eq_true, Bool.not_eq_true', List.isEmpty_eq_false_iff,
      not_or, not_not] at nothing
    have total : pool.totalThreads = state.pool.totalThreads := by rw [same]
    refine counted.place found idle ?_ (Nat.le_of_eq total) (by rw [same]) fun _ =>
      .inl nothing.1
    rw [total, present]
    rfl

theorem enter (stepped : state.enter worker = some next) : Counted maxThreads next := by
  simp only [State.enter] at stepped
  split at stepped <;> cases stepped
  · rename_i found
    exact counted.wait found rfl rfl rfl
  · rename_i found
    exact counted.wait found rfl rfl rfl

omit counted in
theorem finish [DecidableEq Job] (counted : Counted maxThreads state)
    (stepped : state.finish worker = some next) : Counted maxThreads next := by
  simp only [State.finish] at stepped
  split at stepped <;> cases stepped
  rename_i job found
  rw [Pool.finish]
  split
  · exact counted.place found rfl rfl (Nat.le_refl _) rfl fun _ => .inr ⟨Nat.le_refl _, rfl⟩
  · exact counted.place found rfl rfl (Nat.le_refl _) rfl fun _ => .inr ⟨Nat.le_refl _, rfl⟩

theorem submit (unhurried : Unhurried maxThreads state (.submit job))
    (submitted : state.submit maxThreads job = .ok (next, closed)) : Counted maxThreads next := by
  rcases counted with ⟨idle, total, bounded, prompt⟩
  simp only [Unhurried] at unhurried
  simp only [State.submit, Pool.submit] at submitted
  split at submitted
  · cases submitted
  rename_i running
  have promptBefore := prompt (by simpa using running)
  simp only [State.available] at promptBefore unhurried
  split at submitted
  · rename_i notified
    cases submitted
    refine ⟨idle, total, bounded, fun _ => ?_⟩
    simp only [State.available, List.length_append, List.length_singleton]
    have space := unhurried notified
    omega
  split at submitted
  · rename_i nobody room
    cases submitted
    refine ⟨?_, ?_, room, fun _ => ?_⟩
    · rw [idle, List.countP_append]
      rfl
    · simp only
      rw [total, List.countP_append]
      rfl
    · left
      have fits := promptBefore.resolve_right (Nat.ne_of_lt room)
      simp only [State.available, List.length_append, List.length_singleton,
        List.countP_append]
      exact Nat.add_le_add_right fits 1
  · rename_i nobody full
    cases submitted
    exact ⟨idle, total, bounded, fun _ => .inr (Nat.le_antisymm bounded (Nat.not_lt.mp full))⟩

end

theorem step [DecidableEq Job] (counted : Counted maxThreads state)
    (unhurried : Unhurried maxThreads state action)
    (stepped : step maxThreads state action = some next) : Counted maxThreads next := by
  cases action with
  | submit job =>
    simp only [BlockingPool.step] at stepped
    split at stepped <;> cases stepped
    rename_i submitted
    exact counted.submit unhurried submitted
  | enter worker => exact counted.enter stepped
  | wake worker =>
    simp only [BlockingPool.step, State.wake] at stepped
    split at stepped <;> cases stepped
    rename_i found
    exact counted.wait found rfl rfl rfl
  | timeOut worker =>
    simp only [BlockingPool.step, State.timeOut] at stepped
    split at stepped <;> cases stepped
    rename_i found
    exact counted.leaveWait found rfl rfl rfl
  | finish worker => exact counted.finish stepped
  | report worker =>
    simp only [BlockingPool.step, State.report] at stepped
    split at stepped <;> cases stepped
    rename_i found
    exact counted.place found rfl rfl (Nat.le_refl _) rfl fun _ => .inr ⟨Nat.le_refl _, rfl⟩
  | beginShutdown =>
    cases stepped
    rcases counted with ⟨idle, total, bounded, prompt⟩
    simp only [Pool.beginShutdown]
    split
    · exact ⟨idle, total, bounded, prompt⟩
    · exact ⟨idle, total, bounded, prompt⟩
  | stop =>
    cases stepped
    exact ⟨counted.idle, counted.total, counted.bounded, nofun⟩

end Counted

variable [DecidableEq Job]

/-- A `submit` that relies on too few idle threads leaves its job without one. -/
theorem State.not_prompt_of_hurried {job : Job}
    (hurried : ¬ Unhurried maxThreads state (.submit job))
    (stepped : step maxThreads state (.submit job) = some next) : ¬ next.Prompt maxThreads := by
  intro prompt
  simp only [Unhurried, Classical.not_imp, Nat.not_lt] at hurried
  rcases hurried with ⟨idle, room, few⟩
  simp only [BlockingPool.step, State.submit, Pool.submit] at stepped
  split at stepped
  swap
  · cases stepped
  rename_i submitted
  cases stepped
  split at submitted
  · cases submitted
  rename_i running
  cases submitted
  rcases prompt (by simpa using running) with enough | full
  · simp only [State.available, List.length_append, List.length_singleton] at enough few
    omega
  · exact room full

/-- As long as no `submit` relies on an idle thread that an earlier job needs, no job waits
while a thread could be started; and one that does leaves its job waiting. -/
theorem pool_grows_on_demand (maxThreads : Nat) :
    (∀ state : State Job, (machine maxThreads).Reaches (Unhurried maxThreads) state →
      state.Prompt maxThreads) ∧
    ∀ (state next : State Job) (job : Job), ¬ Unhurried maxThreads state (.submit job) →
      step maxThreads state (.submit job) = some next → ¬ next.Prompt maxThreads := by
  refine ⟨?_, fun _ _ _ => State.not_prompt_of_hurried⟩
  intro state reached
  have counted := reached.invariant (Counted maxThreads)
    (fun _ _ _ counted unhurried stepped => counted.step unhurried stepped)
    ⟨rfl, rfl, Nat.zero_le _, fun _ => .inl (Nat.le_refl _)⟩
  exact counted.prompt

/-- Two jobs come before the one thread that waits has woken up. The second stays behind the
first although the pool may start another thread. -/
theorem burst_leaves_job_waiting :
    ∃ state : State Nat, (machine 2).Reaches anyMove state ∧
      state.pool.stop = false ∧ ¬ state.Prompt 2 := by
  refine exists_of_exec [.submit 0, .enter 0, .finish 0, .enter 0, .submit 1, .submit 2]
    (by decide +kernel) fun _ => ⟨by decide +kernel, fun prompt => ?_⟩
  rcases prompt (by decide +kernel) with enough | full
  · exact absurd enough (by decide +kernel)
  · exact absurd full (by decide +kernel)

/-- With one idle thread for each of them, two jobs have a thread each. -/
theorem pool_grows_on_demand_idle :
    ∃ state : State Nat, (machine 3).Reaches (Unhurried 3) state ∧
      state.pool.queue = [2, 3] ∧ state.available = 2 ∧ state.Prompt 3 := by
  refine exists_of_exec
    [.submit 0, .submit 1, .enter 0, .enter 1, .finish 0, .enter 0, .finish 1, .enter 1,
      .submit 2, .submit 3]
    (by decide +kernel) fun reached => ⟨?_, ?_, (pool_grows_on_demand 3).1 _ reached⟩
  all_goals decide +kernel

end CoroRuntime.BlockingPool
