import CoroRuntime.Shutdown.Spawning

/-! # Shutdown reaches quiescence

A spawner stays live until it has announced its child under the shutdown mutex, and a task
is enqueued only after that. So while the thread in `shutdown()` holds the mutex, a task
that has come into a shard it has seen empty cannot run, and its spawner is in a shard or
in the pool that it has still to look at.
-/

namespace CoroRuntime.Shutdown

open Foundation BlockingPool
open Function (update update_apply update_self update_of_ne)

variable {Id : Type u} {config : Config Id} {state next : State Id}

/-! ## What is cancelled -/

def Phase.closedShards (shards : Nat) : Phase Id → Nat
  | .uncalled => 0
  | .closing shard _ => shard
  | _ => shards

def Phase.poolClosed : Phase Id → Bool
  | .uncalled | .closing _ _ | .cancellingTasks _ | .closingPool => false
  | _ => true

/-- The tasks and jobs that `begin_shutdown` has still to cancel. -/
def Phase.toCancel : Phase Id → List Id
  | .closing _ collected => collected
  | .cancellingTasks rest | .cancellingJobs rest => rest
  | _ => []

structure Closes (config : Config Id) (state : State Id) : Prop where
  shards : ∀ {shard}, shard < state.phase.closedShards config.shards → state.closed shard
  uncalled : state.phase = .uncalled → ∀ shard, state.closed shard = false
  pool : state.phase.poolClosed → state.pool.pool.closed
  owned : ∀ {id}, id ∈ state.owned → state.closed (config.shard id) → id ∈ state.doomed
  live : ∀ {id}, id ∈ state.pool.pool.live → state.pool.pool.closed → id ∈ state.doomed
  cancelled : ∀ {id}, id ∈ state.doomed → state.cancelled id ∨ id ∈ state.phase.toCancel ∨
    ∃ parent, state.spawning parent = .cancelling id

/-! ## The check and the wait -/

/-- Somebody is about to call `shutdown_progress`. -/
def State.Pending (state : State Id) : Prop :=
  (∃ child parent, state.spawning parent = .announcing child) ∨ state.reporting ≠ [] ∨
    state.pool.Reports

/-- The thread in `shutdown()` sleeps and nothing has woken it. -/
def State.Blocked (state : State Id) : Prop :=
  state.phase = .waiting false ∨ state.phase = .parked ∧ state.token = false

/-- Checks and waits for the check to become true. -/
def Phase.checks : Phase Id → Bool
  | .locking _ | .looking _ _ | .waiting _ | .batch | .parked => true
  | _ => false

structure Sleeps (config : Config Id) (state : State Id) : Prop where
  /-- A task in a shard that has been seen empty is not announced yet. -/
  seen : ∀ {shard again}, state.phase = .looking shard again → ∀ {id}, id ∈ state.owned →
    (config.shard id).val < shard →
      (∃ parent, state.spawning parent = .cancelling id) ∨
        ∃ parent, state.spawning parent = .announcing (some id)
  quiet : state.phase = .quiet ∨ state.phase = .stopped →
    state.owned = [] ∧ state.pool.pool.live = []
  driver : state.phase.checks → state.driver = config.callingThread
  parked : state.phase = .parked → config.callingThread
  blocked : state.Blocked → state.Live ∨ state.Pending

/-! ## Moves that keep it so -/

section

variable (closes : Closes config state) (sleeps : Sleeps config state)

include closes in
theorem Closes.goto (shards : phase.closedShards config.shards ≤
      state.phase.closedShards config.shards)
    (called : phase = .uncalled → state.phase = .uncalled)
    (pool : phase.poolClosed = state.phase.poolClosed)
    (toCancel : phase.toCancel = state.phase.toCancel) :
    Closes config { state with phase, token } where
  shards early := closes.shards (Nat.lt_of_lt_of_le early shards)
  uncalled is := closes.uncalled (called is)
  pool closed := closes.pool (pool ▸ closed)
  owned := closes.owned
  live := closes.live
  cancelled doomed := by
    rw [toCancel]
    exact closes.cancelled doomed

include closes in
theorem Closes.shutdownProgress : Closes config state.shutdownProgress := by
  refine closes.goto (Nat.le_of_eq ?_) ?_ ?_ ?_
  all_goals cases state.phase <;> simp [Phase.closedShards, Phase.poolClosed, Phase.toCancel]

include closes in
/-- The thread waits only after every shard and the pool have been closed. -/
theorem Closes.of_blocked (blocked : state.Blocked) :
    (∀ id, state.closed (config.shard id)) ∧ state.pool.pool.closed := by
  rcases blocked with is | ⟨is, -⟩
  all_goals
    have shards := @closes.shards
    have pool := closes.pool
    rw [is] at shards pool
    exact ⟨fun id => shards (config.shard id).isLt, pool rfl⟩

theorem doomed_schedule {id child : Id} (doomed : id ∈ state.doomed) :
    id ∈ (state.schedule config child).2.doomed := by
  simp only [State.schedule]
  split
  · exact .tail _ doomed
  · exact doomed

theorem Sleeps.of_uncalled (uncalled : state.phase = .uncalled) : Sleeps config state where
  seen looking := by cases uncalled.symm.trans looking
  quiet done := by simp [uncalled] at done
  driver checks := by simp [uncalled, Phase.checks] at checks
  parked is := by cases uncalled.symm.trans is
  blocked is := by simp [State.Blocked, uncalled] at is

include sleeps in
/-- What a live task or job does leaves the thread something to find. -/
theorem Sleeps.of_live (live : state.Live) (still : next.Live)
    (same : (next.phase, next.driver) = (state.phase, state.driver))
    (seen : ∀ {shard again}, state.phase = .looking shard again → ∀ {id}, id ∈ next.owned →
      (config.shard id).val < shard → (∃ parent, next.spawning parent = .cancelling id) ∨
        ∃ parent, next.spawning parent = .announcing (some id)) : Sleeps config next := by
  rw [Prod.mk.injEq] at same
  rcases same with ⟨phase, driver⟩
  refine ⟨?_, ?_, ?_, ?_, fun _ => .inl still⟩
  all_goals rw [phase]
  · exact seen
  · intro done
    have empty := sleeps.quiet done
    rcases live with owned | pool
    · exact absurd empty.1 owned
    · exact absurd empty.2 pool
  · rw [driver]
    exact sleeps.driver
  · exact sleeps.parked

theorem phase_of_shutdownProgress (is : state.shutdownProgress.phase = phase)
    (other : ∀ notified, phase ≠ .waiting notified) : state.phase = phase := by
  cases here : state.phase <;> simp_all [State.shutdownProgress]

include sleeps in
theorem Sleeps.awake : ¬ state.shutdownProgress.Blocked := by
  rintro (waiting | ⟨parked, token⟩)
  · cases phase : state.phase <;> simp [State.shutdownProgress, phase] at waiting
  · have here := phase_of_shutdownProgress parked nofun
    have driver := sleeps.driver (by rw [here]; rfl)
    rw [sleeps.parked here] at driver
    simp [State.shutdownProgress, driver] at token

include sleeps in
theorem Sleeps.shutdownProgress (free : ¬ state.phase.holdsMutex) :
    Sleeps config state.shutdownProgress where
  seen looking := by
    rw [phase_of_shutdownProgress looking nofun] at free
    cases free rfl
  quiet done := by
    refine sleeps.quiet (done.imp ?_ ?_)
    all_goals exact fun is => phase_of_shutdownProgress is nofun
  driver checks := by
    refine sleeps.driver ?_
    cases here : state.phase <;> simp_all [State.shutdownProgress, Phase.checks]
  parked is := sleeps.parked (phase_of_shutdownProgress is nofun)
  blocked blocked := absurd blocked sleeps.awake

variable [DecidableEq Id]

theorem cancel_cancelled (id : Id) (cancelled : state.cancelled other) :
    (state.cancel id).cancelled other := by
  simp [State.cancel, update_apply, cancelled]

include closes in
theorem Closes.become (different : ∀ child, state.spawning parent ≠ .cancelling child) :
    Closes config (state.become parent spawning) where
  __ := closes
  cancelled doomed := (closes.cancelled doomed).imp_right fun soon =>
    soon.imp_right fun found => exists_update_of_ne found (different _)

theorem submit_same (submitted : state.submit config child = some result) :
    (result.2.owned, result.2.spawning, result.2.phase, result.2.driver) =
      (state.owned, state.spawning, state.phase, state.driver) := by
  simp only [State.submit] at submitted
  split at submitted
  · cases submitted
  split at submitted <;> cases submitted <;> rfl

include closes in
theorem Closes.submit (tracked : Tracked state.pool) (absent : child ∉ state.pool.pool.live)
    (submitted : state.submit config child = some result) : Closes config result.2 := by
  simp only [State.submit] at submitted
  split at submitted
  · cases submitted
  rename_i pool closed queued
  rcases tracked.submit absent queued with ⟨-, live, isClosed, same, -, -⟩
  split at submitted <;> cases submitted
  · refine ⟨closes.shards, closes.uncalled, fun called => same.trans (closes.pool called),
      fun inside closed => .tail _ (closes.owned inside closed), ?_, ?_⟩
    · intro id inside closed
      simp only [State.cancel, live, same] at inside closed
      rcases List.mem_cons.mp inside with rfl | before
      · exact .head _
      · exact .tail _ (closes.live before closed)
    · intro id doomed
      rcases List.mem_cons.mp doomed with rfl | before
      · exact .inl (update_self ..)
      · exact (closes.cancelled before).imp_left (cancel_cancelled child)
  · rename_i accepts
    refine { closes with pool := fun called => same.trans (closes.pool called), live := ?_ }
    intro id inside closed
    rw [same, ← isClosed] at closed
    exact absurd closed accepts

end

structure Inv (config : Config Id) (state : State Id) : Prop where
  spawns : Spawns state
  closes : Closes config state
  sleeps : Sleeps config state

theorem Inv.initial : Inv config ({} : State Id) where
  spawns := ⟨⟨.nil, nofun, nofun, by simp [BlockingPool.State.Runs], .nil⟩, .nil, nofun, nofun,
    nofun, nofun, nofun, nofun⟩
  closes := ⟨nofun, fun _ _ => rfl, nofun, nofun, nofun, nofun⟩
  sleeps := ⟨nofun, nofun, nofun, nofun, nofun⟩

def State.Over (state : State Id) : Prop := state.phase = .quiet ∨ state.phase = .stopped

theorem Inv.cancelled_of_over (inv : Inv config state) (ended : state.Over) {id : Id}
    (doomed : id ∈ state.doomed) : state.cancelled id := by
  have empty := inv.sleeps.quiet ended
  rcases inv.closes.cancelled doomed with done | still | ⟨parent, spawning⟩
  · exact done
  · rcases ended with quiet | stopped
    · rw [quiet] at still
      cases still
    · rw [stopped] at still
      cases still
  · have live := inv.spawns.live_of_runs (inv.spawns.busy (by rw [spawning]; nofun))
    rcases live with owned | live
    · exact absurd empty.1 owned
    · exact absurd empty.2 live

namespace Inv

variable (inv : Inv config state)

include inv

/-- Nobody who spawns is in a shard that has been seen empty. -/
theorem elsewhere (looking : state.phase = .looking shard again) {id : Id}
    (inside : id ∈ state.owned) (ready : state.ready id) : shard ≤ (config.shard id).val := by
  by_contra early
  rcases inv.sleeps.seen looking inside (Nat.not_le.mp early) with ⟨parent, is⟩ | ⟨parent, is⟩
  all_goals
    have child := (inv.spawns.child (by rw [is]; rfl : (state.spawning parent).child = some id)).2
    rw [ready] at child
    cases child

theorem advance (continues : Continues state.pool pool) : Inv config { state with pool } := by
  rcases inv with ⟨spawns, closes, sleeps⟩
  refine ⟨spawns.of_same continues.tracked rfl continues.live continues.runs,
    { closes with pool := ?_, live := ?_ }, { sleeps with quiet := ?_, blocked := ?_ }⟩
  · exact fun called => continues.closed.trans (closes.pool called)
  · simp only [continues.live, continues.closed]
    exact closes.live
  · simp only [continues.live]
    exact sleeps.quiet
  · intro blocked
    simp only [State.Live, State.Pending, continues.live]
    exact (sleeps.blocked blocked).imp_right fun soon =>
      soon.imp_right fun soon => soon.imp_right continues.reports

theorem reportJob (free : ¬ state.phase.holdsMutex)
    (reported : state.pool.report worker = some pool) :
    Inv config { state.shutdownProgress with pool } := by
  rcases inv.spawns.tracked.report reported with ⟨tracked, same, runs⟩
  refine ⟨inv.spawns.of_same tracked rfl (by simp only [same]) fun id => (runs id).mpr,
    { inv.closes.shutdownProgress with pool := ?_, live := ?_ },
    { inv.sleeps.shutdownProgress free with quiet := ?_, blocked := ?_ }⟩
  · rw [same]
    exact inv.closes.shutdownProgress.pool
  · rw [same]
    exact inv.closes.live
  · rw [same]
    exact (inv.sleeps.shutdownProgress free).quiet
  · exact fun blocked => absurd blocked inv.sleeps.awake

theorem goto (here : state.phase = before)
    (shards : phase.closedShards config.shards ≤ before.closedShards config.shards)
    (called : phase ≠ .uncalled) (pool : phase.poolClosed = before.poolClosed)
    (toCancel : phase.toCancel = before.toCancel)
    (sleeps : Sleeps config { state with phase, token }) :
    Inv config { state with phase, token } := by
  subst here
  exact ⟨inv.spawns.of_same inv.spawns.tracked rfl rfl (fun _ runs => runs),
    inv.closes.goto shards (fun uncalled => absurd uncalled called) pool toCancel, sleeps⟩

theorem resume (stepped : state.resume = some next) : Inv config next := by
  have driver := inv.sleeps.driver
  simp only [State.resume] at stepped
  split at stepped <;> cases stepped
  · rename_i notified phase
    refine inv.goto phase (Nat.le_refl _) nofun rfl rfl ⟨nofun, nofun, ?_, nofun, nofun⟩
    exact fun _ => driver (by rw [phase]; rfl)
  · rename_i phase
    refine inv.goto phase (Nat.le_refl _) nofun rfl rfl ⟨nofun, nofun, ?_, nofun, nofun⟩
    exact fun _ => driver (by rw [phase]; rfl)

theorem goAgain (looking : state.phase = .looking shard again) (live : state.Live) :
    Inv config { state with phase := State.goAgain config again } := by
  have driver := inv.sleeps.driver (by rw [looking]; rfl)
  rw [State.goAgain]
  cases calls : config.callingThread with
  | false =>
    exact inv.goto looking (Nat.le_refl _) nofun rfl rfl
      ⟨nofun, nofun, fun _ => driver, nofun, fun _ => .inl live⟩
  | true =>
    cases again with
    | false =>
      exact inv.goto looking (Nat.le_refl _) nofun rfl rfl
        ⟨nofun, nofun, fun _ => driver, nofun, nofun⟩
    | true =>
      exact inv.goto looking (Nat.le_refl _) nofun rfl rfl
        ⟨nofun, nofun, fun _ => driver, fun _ => calls, fun _ => .inl live⟩

/-- Every shard has been seen empty, and so is the pool: nobody is left to spawn what is not
announced yet. -/
theorem quiet (looking : state.phase = .looking shard again) (all : config.shards ≤ shard)
    (empty : state.pool.pool.live = []) : state.owned = [] := by
  rw [List.eq_nil_iff_forall_not_mem]
  intro id inside
  have spawner : ∃ parent, state.spawning parent ≠ .nothing := by
    rcases inv.sleeps.seen looking inside (Nat.lt_of_lt_of_le (config.shard id).isLt all) with
      ⟨parent, is⟩ | ⟨parent, is⟩
    · exact ⟨parent, by simp [is]⟩
    · exact ⟨parent, by simp [is]⟩
  rcases spawner with ⟨parent, busy⟩
  rcases inv.spawns.busy busy with ⟨there, ready⟩ | runs
  · have later := inv.elsewhere looking there ready
    exact Nat.not_lt.mpr (Nat.le_trans all later) (config.shard parent).isLt
  · have live := (inv.spawns.tracked.live parent).mpr (.inr runs)
    rw [empty] at live
    cases live

theorem close (closing : state.phase = .closing shard collected) :
    Inv config { state with
      closed := update state.closed shard true
      doomed := state.members config shard ++ state.doomed
      phase := .closing (shard + 1) (collected ++ state.members config shard) } := by
  refine ⟨inv.spawns.of_same inv.spawns.tracked rfl rfl (fun _ runs => runs), ?_,
    ⟨nofun, nofun, nofun, nofun, nofun⟩⟩
  rcases inv with ⟨-, ⟨shards, -, -, owned, live, cancelled⟩, -⟩
  rw [closing] at shards cancelled
  refine ⟨?_, nofun, nofun, ?_, ?_, ?_⟩
  · intro other early
    by_cases here : other = shard
    · simp [here]
    · simp only [update_of_ne here]
      exact shards (Nat.lt_of_le_of_ne (Nat.le_of_lt_succ early) here)
  · intro id inside closed
    by_cases here : (config.shard id).val = shard
    · exact List.mem_append_left _ (List.mem_filter.mpr ⟨inside, decide_eq_true here⟩)
    · simp only [update_of_ne here] at closed
      exact List.mem_append_right _ (owned inside closed)
  · exact fun inside closed => List.mem_append_right _ (live inside closed)
  · intro id doomed
    rcases List.mem_append.mp doomed with new | before
    · exact .inr (.inl (List.mem_append_right _ new))
    · exact (cancelled before).imp_right fun soon => soon.imp_left (List.mem_append_left _)

theorem closePool (closing : state.phase = .closingPool) :
    Inv config { state with
      pool := { state.pool with pool := state.pool.pool.beginShutdown.2 }
      doomed := state.pool.pool.beginShutdown.1 ++ state.doomed
      phase := .cancellingJobs state.pool.pool.beginShutdown.1 } := by
  have tracked := inv.spawns.tracked
  rcases inv with ⟨spawns, ⟨shards, -, -, owned, live, cancelled⟩, -⟩
  rw [closing] at shards cancelled
  rw [Pool.beginShutdown]
  split
  · rename_i closed
    exact ⟨spawns.of_same tracked rfl rfl (fun _ runs => runs),
      ⟨shards, nofun, fun _ => closed, owned, live, cancelled⟩,
      ⟨nofun, nofun, nofun, nofun, nofun⟩⟩
  · refine ⟨spawns.of_same { tracked with } rfl rfl (fun _ runs => runs),
      ⟨shards, nofun, fun _ => rfl, ?_, fun inside _ => List.mem_append_left _ inside, ?_⟩,
      ⟨nofun, nofun, nofun, nofun, nofun⟩⟩
    · exact fun inside closed => List.mem_append_right _ (owned inside closed)
    · intro id doomed
      rcases List.mem_append.mp doomed with new | before
      · exact .inr (.inl new)
      · exact (cancelled before).imp_right fun soon => soon.imp_left fun none => (by cases none)

variable [DecidableEq Id]

theorem schedule (may : MaySpawn state parent child) :
    Inv config ((state.schedule config child).2.become parent (state.schedule config child).1) := by
  have ⟨runs, free, _⟩ := may
  rcases inv with ⟨spawns, closes, sleeps⟩
  have others : ∀ {spawning what}, what ≠ .nothing → (∃ other, state.spawning other = what) →
      ∃ other, update state.spawning parent spawning other = what :=
    fun something found => exists_update_of_ne found (free ▸ something.symm)
  refine ⟨spawns.schedule may, { closes with owned := ?_, live := ?_, cancelled := ?_ },
    sleeps.of_live (spawns.live_of_runs runs) (.inl (by simp [State.schedule, State.become])) rfl
      ?_⟩
  · intro id inside closed
    rcases List.mem_cons.mp inside with rfl | before
    · have here : state.closed (config.shard id) := closed
      simp [State.schedule, State.become, here]
    · exact doomed_schedule (closes.owned before closed)
  · exact fun inside closed => doomed_schedule (closes.live inside closed)
  · intro id doomed
    have before := @closes.cancelled id
    simp only [State.schedule, State.become] at doomed ⊢
    split at doomed
    · rcases List.mem_cons.mp doomed with rfl | was
      · exact .inr (.inr ⟨parent, by simp [*]⟩)
      · exact (before was).imp_right fun soon => soon.imp_right (others (by simp))
    · exact (before doomed).imp_right fun soon => soon.imp_right (others (by simp))
  · intro shard again looking id inside early
    rcases List.mem_cons.mp inside with rfl | before
    · -- every shard is closed by now, so the new task is cancelled next
      have shards := @closes.shards
      rw [looking] at shards
      have closed : state.closed (config.shard id) := shards (config.shard id).isLt
      exact .inl ⟨parent, by simp [State.become, State.schedule, closed]⟩
    · exact (sleeps.seen looking before early).imp (others (by simp)) (others (by simp))

theorem submit (may : MaySpawn state parent child)
    (submitted : state.submit config child = some result) :
    Inv config (result.2.become parent result.1) := by
  have ⟨runs, free, fresh⟩ := may
  have absent : child ∉ state.pool.pool.live := fun inside => fresh (inv.spawns.live_born inside)
  have spawned := inv.spawns.submit may submitted
  have going := (inv.spawns.job fresh submitted).2.2
  rcases inv with ⟨spawns, closes, sleeps⟩
  have closes := closes.submit spawns.tracked absent submitted
  have same := submit_same submitted
  simp only [Prod.mk.injEq] at same
  rcases same with ⟨owned, spawning, phase, driver⟩
  have nothing : result.2.spawning parent = .nothing := by rw [spawning, free]
  have live := spawned.live_of_runs (going parent runs)
  refine ⟨spawned, closes.become (by simp [nothing]),
    sleeps.of_live (spawns.live_of_runs runs) live (by simp [State.become, phase, driver]) ?_⟩
  intro shard again looking id inside early
  simp only [State.become, owned] at inside
  simp only [State.become, spawning]
  refine (sleeps.seen looking inside early).imp (exists_update_of_ne · ?_)
    (exists_update_of_ne · ?_)
  all_goals simp [free]

theorem task {id : Id} (fresh : Fresh state id)
    (uncalled : state.phase = .uncalled) :
    Inv config { (state.schedule config id).2 with
      ready := update (state.schedule config id).2.ready id true } := by
  have unclosed := inv.closes.uncalled uncalled
  refine ⟨inv.spawns.task fresh, { inv.closes with owned := ?_, live := ?_, cancelled := ?_ },
    .of_uncalled uncalled⟩
  · exact fun _ closed => absurd closed (by simp [State.schedule, unclosed])
  · exact fun inside closed => doomed_schedule (inv.closes.live inside closed)
  · exact fun doomed => inv.closes.cancelled (by simpa [State.schedule, unclosed] using doomed)

theorem job {id : Id} (fresh : Fresh state id) (uncalled : state.phase = .uncalled)
    (submitted : state.submit config id = some result) : Inv config result.2 := by
  have absent : id ∉ state.pool.pool.live := fun inside => fresh (inv.spawns.live_born inside)
  have same := submit_same submitted
  simp only [Prod.mk.injEq] at same
  exact ⟨(inv.spawns.job fresh submitted).1, inv.closes.submit inv.spawns.tracked absent submitted,
    .of_uncalled (same.2.2.1.trans uncalled)⟩

theorem goOn (stepped : state.goOn parent = some next) : Inv config next := by
  have spawned := inv.spawns.goOn stepped
  rcases inv with ⟨spawns, closes, sleeps⟩
  have live : state.spawning parent ≠ .nothing → state.Live :=
    fun spawning => spawns.live_of_runs (spawns.busy spawning)
  simp only [State.goOn] at stepped
  split at stepped
  · cases stepped
  · rename_i child spawning
    cases stepped
    have lively := live (by simp [spawning])
    have different : ∀ {id}, id ≠ child → state.spawning parent ≠ .cancelling id :=
      fun other is => other (Spawning.cancelling.inj (is.symm.trans spawning))
    refine ⟨spawned, { closes with cancelled := ?_ }, sleeps.of_live lively lively rfl ?_⟩
    · intro id doomed
      by_cases here : id = child
      · subst here
        exact .inl (update_self ..)
      · exact (closes.cancelled doomed).imp (cancel_cancelled child) fun soon =>
          soon.imp_right (exists_update_of_ne · (different here))
    · intro shard again looking id inside early
      by_cases here : id = child
      · subst here
        exact .inr ⟨parent, update_self ..⟩
      · exact (sleeps.seen looking inside early).imp (exists_update_of_ne · (different here))
          (exists_update_of_ne · (by simp [State.cancel, spawning]))
  · rename_i child spawning
    rcases of_unless stepped with ⟨free, rfl⟩
    have awake := sleeps.shutdownProgress free
    refine ⟨spawned, closes.shutdownProgress.become ?_,
      { awake with seen := ?_, blocked := fun blocked => absurd blocked sleeps.awake }⟩
    · exact fun _ => by simp [State.shutdownProgress, spawning]
    · intro shard again looking
      rw [phase_of_shutdownProgress looking (by simp)] at free
      cases free rfl
  · rename_i child spawning
    cases stepped
    have lively := live (by simp [spawning])
    have closed : Closes config (state.become parent .nothing) := closes.become (by simp [spawning])
    refine ⟨spawned, { closed with }, sleeps.of_live lively lively rfl ?_⟩
    intro shard again looking id inside early
    refine (sleeps.seen looking inside early).imp (exists_update_of_ne · ?_)
      (exists_update_of_ne · ?_)
    · simp [spawning]
    · simp [spawning]

theorem finishTask {id : Id} (ready : state.ready id)
    (free : state.spawning id = .nothing) : Inv config (state.finishTask config id) := by
  have spawned : Spawns (state.finishTask config id) := inv.spawns.finishTask ready free
  rcases inv with ⟨spawns, closes, sleeps⟩
  refine ⟨spawned, { closes with owned := ?_ },
    { sleeps with seen := ?_, quiet := ?_, blocked := ?_ }⟩
  · exact fun inside closed => closes.owned (List.mem_of_mem_erase inside) closed
  · exact fun looking _ inside early => sleeps.seen looking (List.mem_of_mem_erase inside) early
  · intro done
    have empty := sleeps.quiet done
    exact ⟨by rw [State.finishTask, empty.1]; rfl, empty.2⟩
  · intro blocked
    have closed := (closes.of_blocked blocked).1 id
    exact .inr (.inr (.inl (by simp [State.finishTask, closed])))

theorem reportTask {id : Id}
    (free : ¬ state.phase.holdsMutex) :
    Inv config { state.shutdownProgress with reporting := state.reporting.erase id } := by
  refine ⟨inv.spawns.of_same inv.spawns.tracked rfl rfl (fun _ runs => runs),
    { inv.closes.shutdownProgress with }, { inv.sleeps.shutdownProgress free with blocked := ?_ }⟩
  exact fun blocked => absurd blocked inv.sleeps.awake

theorem finishJob {id : Id} (found : state.pool.workers[worker]? = some (.running id))
    (free : state.spawning id = .nothing) (finished : state.pool.finish worker = some pool) :
    Inv config { state with pool } := by
  have spawned := inv.spawns.finishJob found free finished
  rcases inv with ⟨spawns, closes, sleeps⟩
  simp only [BlockingPool.State.finish, found, Option.some.injEq] at finished
  rcases spawns.tracked.finish found with ⟨-, live, -, reports, closed, -⟩
  rw [finished] at live reports closed
  refine ⟨spawned, { closes with pool := ?_, live := ?_ },
    { sleeps with quiet := ?_, blocked := ?_ }⟩
  · exact fun called => closed.trans (closes.pool called)
  · exact fun inside is => closes.live ((live _).mp inside).2 (closed.symm.trans is)
  · intro done
    have empty := sleeps.quiet done
    refine ⟨empty.1, List.eq_nil_iff_forall_not_mem.mpr ?_⟩
    intro other inside
    have before := ((live other).mp inside).2
    rw [empty.2] at before
    cases before
  · exact fun blocked => .inr (.inr (.inr (reports (.inr (closes.of_blocked blocked).2))))

theorem cancel {id : Id} (here : state.phase = before) (toCancel : before.toCancel = id :: rest)
    (remaining : phase.toCancel = rest)
    (shards : phase.closedShards config.shards ≤ before.closedShards config.shards)
    (called : phase ≠ .uncalled) (pool : phase.poolClosed = before.poolClosed)
    (sleeps : Sleeps config { state.cancel id with phase }) :
    Inv config { state.cancel id with phase } := by
  refine ⟨inv.spawns.of_same inv.spawns.tracked rfl rfl (fun _ runs => runs), ?_, sleeps⟩
  rcases inv with ⟨-, ⟨shardsBefore, -, poolBefore, owned, live, cancelled⟩, -⟩
  rw [here] at shardsBefore poolBefore cancelled
  refine ⟨fun early => shardsBefore (Nat.lt_of_lt_of_le early shards),
    fun uncalled => absurd uncalled called, fun closed => poolBefore (pool ▸ closed), owned, live,
    ?_⟩
  intro other doomed
  rw [remaining]
  rcases cancelled doomed with done | soon | spawning
  · exact .inl (cancel_cancelled id done)
  · rw [toCancel] at soon
    rcases List.mem_cons.mp soon with rfl | later
    · exact .inl (update_self ..)
    · exact .inr (.inl later)
  · exact .inr (.inr spawning)

theorem shutdown (stepped : state.shutdown config = some next) : Inv config next := by
  have tracked := inv.spawns.tracked
  cases phase : state.phase with simp only [State.shutdown, phase] at stepped
  | uncalled =>
    simp only [Option.some.injEq] at stepped
    subst stepped
    exact inv.goto phase (Nat.le_refl _) nofun rfl rfl ⟨nofun, nofun, nofun, nofun, nofun⟩
  | closing shard collected =>
    split at stepped
    · cases stepped
      exact inv.close phase
    · rename_i all
      cases stepped
      exact inv.goto phase (Nat.not_lt.mp all) nofun rfl rfl
        ⟨nofun, nofun, nofun, nofun, nofun⟩
  | cancellingTasks rest =>
    cases rest with
    | nil =>
      simp only [Option.some.injEq] at stepped
      subst stepped
      exact inv.goto phase (Nat.le_refl _) nofun rfl rfl ⟨nofun, nofun, nofun, nofun, nofun⟩
    | cons id rest =>
      simp only [Option.some.injEq] at stepped
      subst stepped
      exact inv.cancel phase rfl rfl (Nat.le_refl _) nofun rfl ⟨nofun, nofun, nofun, nofun, nofun⟩
  | closingPool =>
    simp only [Option.some.injEq] at stepped
    subst stepped
    exact inv.closePool phase
  | cancellingJobs rest =>
    cases rest with
    | nil =>
      simp only [Option.some.injEq] at stepped
      subst stepped
      rcases inv with ⟨spawns, ⟨shards, -, pool, owned, live, cancelled⟩, -⟩
      rw [phase] at shards pool cancelled
      exact ⟨spawns.of_same tracked rfl rfl (fun _ runs => runs),
        ⟨shards, nofun, pool, owned, live, cancelled⟩,
        ⟨nofun, nofun, fun _ => rfl, nofun, nofun⟩⟩
    | cons id rest =>
      simp only [Option.some.injEq] at stepped
      subst stepped
      exact inv.cancel phase rfl rfl (Nat.le_refl _) nofun rfl ⟨nofun, nofun, nofun, nofun, nofun⟩
  | locking again =>
    have driver := inv.sleeps.driver (by rw [phase]; rfl)
    simp only [Option.some.injEq] at stepped
    subst stepped
    refine inv.goto phase (Nat.le_refl _) nofun rfl rfl ⟨?_, nofun, fun _ => driver, nofun, nofun⟩
    intro shard repeated looking id inside early
    cases looking
    exact absurd early (Nat.not_lt_zero _)
  | looking shard again =>
    have driver := inv.sleeps.driver (by rw [phase]; rfl)
    split at stepped
    · cases stepped
      split
      · rename_i empty
        refine inv.goto phase (Nat.le_refl _) nofun rfl rfl
          ⟨?_, nofun, fun _ => driver, nofun, nofun⟩
        intro later repeated looking id inside early
        cases looking
        -- this shard has just been seen empty
        have different : (config.shard id).val ≠ shard := by
          intro here
          have member : id ∈ state.members config shard :=
            List.mem_filter.mpr ⟨inside, decide_eq_true here⟩
          rw [empty] at member
          cases member
        exact inv.sleeps.seen phase inside (by omega)
      · rename_i nonempty
        refine inv.goAgain phase (.inl ?_)
        intro none
        exact nonempty (by rw [State.members, none]; rfl)
    · rename_i all
      cases stepped
      split
      · rename_i nonempty
        refine inv.goAgain phase (.inr ?_)
        intro none
        rw [Pool.hasTasks, none] at nonempty
        cases nonempty
      · rename_i none
        have empty : state.pool.pool.live = [] := by
          simpa [Pool.hasTasks] using none
        have nothing := inv.quiet phase (Nat.not_lt.mp all) empty
        exact inv.goto phase (Nat.le_refl _) nofun rfl rfl
          ⟨nofun, fun _ => ⟨nothing, empty⟩, nofun, nofun, nofun⟩
  | batch =>
    have driver := inv.sleeps.driver (by rw [phase]; rfl)
    simp only [Option.some.injEq] at stepped
    subst stepped
    exact inv.goto phase (Nat.le_refl _) nofun rfl rfl ⟨nofun, nofun, fun _ => driver, nofun, nofun⟩
  | quiet =>
    simp only [Option.some.injEq] at stepped
    subst stepped
    rcases inv with ⟨spawns, ⟨shards, -, pool, owned, live, cancelled⟩, sleeps⟩
    rw [phase] at shards pool cancelled
    exact ⟨spawns.of_same { tracked with } rfl rfl (fun _ runs => runs),
      ⟨shards, nofun, pool, owned, live, cancelled⟩,
      ⟨nofun, fun _ => sleeps.quiet (.inl phase), nofun, nofun, nofun⟩⟩
  | waiting notified | parked | stopped =>
    cases stepped

theorem step (stepped : step config state action = some next) : Inv config next := by
  cases action with simp only [Shutdown.step] at stepped
  | task id =>
    rcases of_guard stepped with ⟨⟨uncalled, fresh⟩, rfl⟩
    exact inv.task fresh uncalled
  | job id =>
    simp only [Option.ite_none_right_eq_some, Option.map_eq_some_iff] at stepped
    rcases stepped with ⟨⟨uncalled, fresh⟩, result, submitted, rfl⟩
    exact inv.job fresh uncalled submitted
  | spawnTask parent child =>
    rcases of_guard stepped with ⟨may, rfl⟩
    exact inv.schedule may
  | spawnJob parent child =>
    simp only [Option.ite_none_right_eq_some, Option.map_eq_some_iff] at stepped
    rcases stepped with ⟨may, result, submitted, rfl⟩
    exact inv.submit may submitted
  | goOn parent => exact inv.goOn stepped
  | finishTask id =>
    rcases of_guard stepped with ⟨⟨-, ready, free⟩, rfl⟩
    exact inv.finishTask ready free
  | reportTask id =>
    rcases of_guard stepped with ⟨⟨-, free⟩, rfl⟩
    exact inv.reportTask free
  | enter worker =>
    simp only [Option.map_eq_some_iff] at stepped
    rcases stepped with ⟨pool, entered, rfl⟩
    exact inv.advance (inv.spawns.tracked.enter entered)
  | wake worker =>
    simp only [Option.map_eq_some_iff] at stepped
    rcases stepped with ⟨pool, entered, rfl⟩
    exact inv.advance (inv.spawns.tracked.wake entered)
  | timeOut worker =>
    simp only [Option.map_eq_some_iff] at stepped
    rcases stepped with ⟨pool, entered, rfl⟩
    exact inv.advance (inv.spawns.tracked.timeOut entered)
  | finishJob worker =>
    split at stepped
    · rename_i id found
      simp only [Option.ite_none_right_eq_some, Option.map_eq_some_iff] at stepped
      rcases stepped with ⟨free, pool, finished, rfl⟩
      exact inv.finishJob found free finished
    · cases stepped
  | reportJob worker =>
    simp only [Option.ite_none_left_eq_some, Option.map_eq_some_iff] at stepped
    rcases stepped with ⟨free, pool, reported, rfl⟩
    exact inv.reportJob free reported
  | shutdown => exact inv.shutdown stepped
  | resume => exact inv.resume stepped

end Inv

/-! ## Whole runs -/

variable [DecidableEq Id]

theorem inv_of_reaches (reached : (machine config).Reaches anyMove state) :
    Inv config state :=
  reached.invariant (Inv config) (fun _ _ _ inv _ stepped => inv.step stepped) .initial

structure Keeps (state next : State Id) : Prop where
  doomed : ∀ {id}, id ∈ state.doomed → id ∈ next.doomed
  ended : state.Over → next.Over

theorem keeps_submit (submitted : state.submit config child = some result) :
    Keeps state result.2 := by
  simp only [State.submit] at submitted
  split at submitted
  · cases submitted
  split at submitted <;> cases submitted
  · exact ⟨List.mem_cons_of_mem _, id⟩
  · exact ⟨id, id⟩

theorem keeps_shutdown (stepped : state.shutdown config = some next) : Keeps state next := by
  constructor
  · intro id doomed
    unfold State.shutdown at stepped
    split at stepped
    case h_2 | h_9 => split at stepped <;> cases stepped <;> simp [doomed]
    all_goals cases stepped
    all_goals simp [State.cancel, doomed]
  · rintro (is | is) <;> simp only [State.shutdown, is] at stepped <;> cases stepped
    exact .inr rfl

theorem keeps_step (stepped : step config state action = some next) : Keeps state next := by
  have progress : state.Over → state.shutdownProgress.Over := by
    rintro (is | is) <;> simp [State.Over, State.shutdownProgress, is]
  cases action with
  | task | spawnTask =>
    rcases of_guard stepped with ⟨-, rfl⟩
    exact ⟨doomed_schedule, id⟩
  | job | spawnJob =>
    rcases Option.ite_none_right_eq_some.mp stepped with ⟨-, stepped⟩
    rcases Option.map_eq_some_iff.mp stepped with ⟨result, submitted, rfl⟩
    exact { keeps_submit submitted with }
  | goOn =>
    simp only [step, State.goOn] at stepped
    split at stepped
    case h_3 =>
      rcases of_unless stepped with ⟨-, rfl⟩
      exact ⟨id, progress⟩
    all_goals cases stepped
    all_goals exact ⟨id, id⟩
  | finishTask =>
    rcases of_guard stepped with ⟨-, rfl⟩
    exact ⟨id, id⟩
  | reportTask =>
    rcases of_guard stepped with ⟨-, rfl⟩
    exact ⟨id, progress⟩
  | enter | wake | timeOut =>
    rcases Option.map_eq_some_iff.mp stepped with ⟨pool, -, rfl⟩
    exact ⟨id, id⟩
  | finishJob =>
    simp only [step] at stepped
    split at stepped
    · rcases Option.ite_none_right_eq_some.mp stepped with ⟨-, stepped⟩
      rcases Option.map_eq_some_iff.mp stepped with ⟨pool, -, rfl⟩
      exact ⟨id, id⟩
    · cases stepped
  | reportJob =>
    rcases Option.ite_none_left_eq_some.mp stepped with ⟨-, stepped⟩
    rcases Option.map_eq_some_iff.mp stepped with ⟨pool, -, rfl⟩
    exact ⟨id, progress⟩
  | shutdown => exact keeps_shutdown stepped
  | resume =>
    simp only [step, State.resume] at stepped
    split at stepped <;> cases stepped
    all_goals exact ⟨id, fun ended => by simp_all [State.Over]⟩

theorem keeps_path (path : (machine config).Path anyMove state actions next) :
    Keeps state next := by
  induction path with
  | nil => exact ⟨fun doomed => doomed, fun ended => ended⟩
  | cons _ stepped _ induction =>
    have first := keeps_step stepped
    exact ⟨fun doomed => induction.doomed (first.doomed doomed), fun ended =>
      induction.ended (first.ended ended)⟩

/-- The destination of a live task or job is closed. -/
def State.Doomed (config : Config Id) (state : State Id) (id : Id) : Prop :=
  id ∈ state.owned ∧ state.closed (config.shard id) ∨
    id ∈ state.pool.pool.live ∧ state.pool.pool.closed

structure Quiesces (config : Config Id) (state : State Id) : Prop where
  /-- Once the check is true nothing is live, and nothing becomes live. -/
  quiet : state.Over → ∀ {actions later},
    (machine config).Path anyMove state actions later →
      later.owned = [] ∧ later.pool.pool.live = []
  /-- What is live in a closed place has been cancelled, or is about to be. -/
  soon : ∀ {id}, state.Doomed config id → state.cancelled id ∨ id ∈ state.phase.toCancel ∨
    ∃ parent, state.spawning parent = .cancelling id
  /-- It has been cancelled by the time the check is true. -/
  cancelled : ∀ {id}, state.Doomed config id → ∀ {actions later},
    (machine config).Path anyMove state actions later → later.Over → later.cancelled id
  blocked : state.Blocked → state.Live ∨ state.Pending

/-- In any interleaving of `shutdown()` with tasks and jobs that run, spawn and finish, the
check becomes true only when nothing is left, everything has been cancelled by then, and
the thread that waits for it is not forgotten. -/
theorem shutdown_quiesces (reached : (machine config).Reaches anyMove state) :
    Quiesces config state := by
  have inv := inv_of_reaches reached
  have doomed : ∀ {id}, state.Doomed config id → id ∈ state.doomed := by
    rintro id (⟨inside, closed⟩ | ⟨inside, closed⟩)
    · exact inv.closes.owned inside closed
    · exact inv.closes.live inside closed
  have later_inv : ∀ {actions later},
      (machine config).Path anyMove state actions later → Inv config later :=
    fun path => path.invariant (Inv config) (fun _ _ _ inv _ stepped => inv.step stepped) inv
  refine ⟨?_, fun known => inv.closes.cancelled (doomed known), ?_, inv.sleeps.blocked⟩
  · intro ended actions later path
    exact (later_inv path).sleeps.quiet ((keeps_path path).ended ended)
  · intro id known actions later path ended
    exact (later_inv path).cancelled_of_over ended ((keeps_path path).doomed (doomed known))

/-- A job spawns a task into a shard that the check has already seen empty; the check finds
the job. -/
theorem shutdown_quiesces_spawning :
    ∃ (config : Config Nat) (state : State Nat),
      (machine config).Reaches anyMove state ∧ state.phase = .quiet ∧
      state.born = [2, 1, 0] ∧ Quiesces config state := by
  let config : Config Nat :=
    { shards := 2, shard := fun id => ⟨id % 2, Nat.mod_lt _ (by decide)⟩,
      callingThread := false, maxThreads := 1 }
  refine ⟨config, exists_of_exec
    [.task 0, .shutdown, .shutdown, .shutdown, .shutdown, .shutdown, .shutdown, .spawnJob 0 1,
      .shutdown, .shutdown, .shutdown, .shutdown, .shutdown, .finishTask 0, .reportTask 0,
      .resume, .enter 0, .shutdown, .shutdown, .spawnTask 1 2, .goOn 1, .shutdown, .shutdown,
      .goOn 1, .goOn 1, .finishTask 2, .finishJob 0, .reportTask 2, .reportJob 0, .resume,
      .shutdown, .shutdown, .shutdown, .shutdown]
    (by decide +kernel) fun reached => ⟨?_, ?_, shutdown_quiesces reached⟩⟩
  all_goals decide +kernel

end CoroRuntime.Shutdown
