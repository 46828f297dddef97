import CoroRuntime.Foundation.Updates
import CoroRuntime.Shutdown.Runtime

/-! # Who spawns during shutdown

Only a live task or job spawns another one. A task that is spawned belongs to the executor
before it is enqueued, and its spawner stays live until then.
-/

namespace CoroRuntime.Shutdown

open Foundation BlockingPool
open Function (update update_apply update_of_ne)

variable {Id : Type u}

def Spawning.child : Spawning Id → Option Id
  | .nothing => none
  | .cancelling child => some child
  | .announcing child => child
  | .enqueueing child => some child

variable [DecidableEq Id] {config : Config Id} {state next : State Id}

/-! ## Who spawns -/

def State.Live (state : State Id) : Prop := state.owned ≠ [] ∨ state.pool.pool.live ≠ []

structure Spawns (state : State Id) : Prop where
  tracked : Tracked state.pool
  owned_nodup : state.owned.Nodup
  owned_born : ∀ {id}, id ∈ state.owned → id ∈ state.born
  live_born : ∀ {id}, id ∈ state.pool.pool.live → id ∈ state.born
  ready_born : ∀ {id}, state.ready id → id ∈ state.born
  /-- Whoever spawns is live. -/
  busy : ∀ {id}, state.spawning id ≠ .nothing → state.Runs id
  child : ∀ {id child}, (state.spawning id).child = some child →
    child ∈ state.owned ∧ state.ready child = false
  only : ∀ {id other child}, (state.spawning id).child = some child →
    (state.spawning other).child = some child → id = other

namespace Spawns

variable (spawns : Spawns state)

include spawns

omit [DecidableEq Id] in
theorem live_of_runs {id : Id} (runs : state.Runs id) : state.Live := by
  rcases runs with ⟨inside, -⟩ | runs
  · exact .inl (List.ne_nil_of_mem inside)
  · exact .inr (List.ne_nil_of_mem ((spawns.tracked.live id).mpr (.inr runs)))

theorem become (busy : spawning ≠ .nothing → state.Runs parent)
    (child : ∀ {child}, spawning.child = some child →
      child ∈ state.owned ∧ state.ready child = false)
    (only : ∀ {other child}, other ≠ parent → (state.spawning other).child = some child →
      spawning.child ≠ some child) : Spawns (state.become parent spawning) where
  __ := spawns
  busy something := by
    simp only [State.become, update_apply] at something
    split at something
    · rename_i here
      subst here
      exact busy something
    · exact spawns.busy something
  child is := by
    simp only [State.become, update_apply] at is
    split at is
    · exact child is
    · exact spawns.child is
  only first second := by
    simp only [State.become, update_apply] at first second
    split at first <;> split at second
    · exact ‹_ = parent›.trans ‹_ = parent›.symm
    · exact absurd first (only ‹_› second)
    · exact absurd second (only ‹_› first)
    · exact spawns.only first second

omit [DecidableEq Id] in
theorem scheduled {child : Id} (fresh : Fresh state child) :
    Spawns (state.schedule config child).2 where
  tracked := spawns.tracked
  owned_nodup := List.nodup_cons.mpr
    ⟨fun inside => fresh (spawns.owned_born inside), spawns.owned_nodup⟩
  owned_born inside := (List.mem_cons.mp inside).elim (fun is => is ▸ .head _)
    fun before => .tail _ (spawns.owned_born before)
  live_born inside := .tail _ (spawns.live_born inside)
  ready_born ready := .tail _ (spawns.ready_born ready)
  busy something := (spawns.busy something).imp_left (.imp_left (.tail _))
  child is := (spawns.child is).imp_left (.tail _)
  only := spawns.only

theorem schedule {child : Id} (may : MaySpawn state parent child) :
    Spawns ((state.schedule config child).2.become parent (state.schedule config child).1) := by
  rcases may with ⟨runs, -, fresh⟩
  have unready : state.ready child = false :=
    Bool.eq_false_iff.mpr fun ready => fresh (spawns.ready_born ready)
  have is : (state.schedule config child).1.child = some child := by
    simp only [State.schedule]
    split <;> rfl
  refine (spawns.scheduled fresh).become (fun _ => runs.imp_left (.imp_left (.tail _))) ?_ ?_
  · intro other spawned
    cases is.symm.trans spawned
    exact ⟨.head _, unready⟩
  · intro other old _ before spawned
    cases is.symm.trans spawned
    exact fresh (spawns.owned_born (spawns.child before).1)

theorem enqueue {id : Id} (born : id ∈ state.born)
    (unspawned : ∀ other, (state.spawning other).child ≠ some id) :
    Spawns { state with ready := update state.ready id true } := by
  refine { spawns with ready_born := ?_, busy := ?_, child := ?_ }
  · intro other ready
    by_cases here : other = id
    · exact here ▸ born
    · simp only [update_of_ne here] at ready
      exact spawns.ready_born ready
  · intro other something
    refine (spawns.busy something).imp_left fun ⟨inside, ready⟩ => ⟨inside, ?_⟩
    simp [update_apply, ready]
  · intro parent child is
    have owned := spawns.child is
    refine ⟨owned.1, (update_of_ne ?_ ..).trans owned.2⟩
    rintro rfl
    exact unspawned parent is

theorem task {id : Id} (fresh : Fresh state id) :
    Spawns { (state.schedule config id).2 with
      ready := update (state.schedule config id).2.ready id true } :=
  (spawns.scheduled fresh).enqueue (.head _) fun _ is =>
    fresh (spawns.owned_born (spawns.child is).1)

omit [DecidableEq Id] in
/-- The flags and the phase of the thread in `shutdown()` play no part. -/
theorem of_same (tracked : Tracked next.pool)
    (same : (next.owned, next.born, next.ready, next.spawning) =
      (state.owned, state.born, state.ready, state.spawning))
    (live : next.pool.pool.live = state.pool.pool.live)
    (runs : ∀ id, state.pool.Runs id → next.pool.Runs id) : Spawns next := by
  simp only [Prod.mk.injEq] at same
  rcases same with ⟨owned, born, ready, spawning⟩
  refine ⟨tracked, ?_, ?_, ?_, ?_, ?_, ?_, ?_⟩
  all_goals simp only [State.Runs, owned, born, ready, spawning, live]
  · exact spawns.owned_nodup
  · exact spawns.owned_born
  · exact spawns.live_born
  · exact spawns.ready_born
  · exact fun something => (spawns.busy something).imp_right (runs _)
  · exact spawns.child
  · exact spawns.only

theorem job {id : Id} (fresh : Fresh state id) (submitted : state.submit config id = some result) :
    Spawns result.2 ∧ result.1.child = none ∧ ∀ other, state.Runs other → result.2.Runs other := by
  have absent : id ∉ state.pool.pool.live := fun inside => fresh (spawns.live_born inside)
  simp only [State.submit] at submitted
  split at submitted
  · cases submitted
  rename_i pool closed queued
  rcases spawns.tracked.submit absent queued with ⟨⟨tracked, same⟩, live, -⟩
  have runs : ∀ {other}, state.Runs other → state.owned.Mem other ∧ state.ready other ∨
    pool.Runs other := fun runs => runs.imp_right (same _).mpr
  have liveBorn : ∀ {other}, other ∈ pool.pool.live → other ∈ id :: state.born := by
    intro other inside
    rw [live] at inside
    exact (List.mem_cons.mp inside).elim (fun is => is ▸ .head _)
      fun before => .tail _ (spawns.live_born before)
  split at submitted <;> cases submitted
  all_goals
    exact ⟨⟨tracked, spawns.owned_nodup, fun inside => .tail _ (spawns.owned_born inside),
      liveBorn, fun ready => .tail _ (spawns.ready_born ready),
      fun something => runs (spawns.busy something), spawns.child, spawns.only⟩, rfl,
      fun _ => runs⟩

theorem submit {child : Id} (may : MaySpawn state parent child)
    (submitted : state.submit config child = some result) :
    Spawns (result.2.become parent result.1) := by
  rcases may with ⟨running, -, fresh⟩
  rcases spawns.job fresh submitted with ⟨spawned, childless, runs⟩
  exact spawned.become (fun _ => runs _ running) (by simp [childless]) (by simp [childless])

theorem goOn (stepped : state.goOn parent = some next) : Spawns next := by
  have only : ∀ {other child}, other ≠ parent → (state.spawning other).child = some child →
      (state.spawning parent).child ≠ some child :=
    fun different first second => different (spawns.only first second)
  have child := @spawns.child parent
  have busy := @spawns.busy parent
  simp only [State.goOn] at stepped
  split at stepped
  · cases stepped
  all_goals rename_i spawned spawning
  all_goals rw [spawning] at only child busy
  · cases stepped
    have cancelled : Spawns (state.cancel spawned) := { spawns with }
    exact cancelled.become (fun _ => busy nofun) child only
  · rcases of_unless stepped with ⟨_, rfl⟩
    have told : Spawns state.shutdownProgress := { spawns with }
    cases spawned with
    | none => exact told.become (fun _ => busy nofun) nofun nofun
    | some spawned => exact told.become (fun _ => busy nofun) child only
  · cases stepped
    have left : Spawns (state.become parent .nothing) := spawns.become nofun nofun nofun
    refine left.enqueue (spawns.owned_born (child rfl).1) fun other is => ?_
    simp only [State.become, update_apply] at is
    split at is
    · cases is
    · exact only ‹_› is rfl

theorem finishTask {id : Id} (ready : state.ready id)
    (free : state.spawning id = .nothing) : Spawns (state.finishTask config id) := by
  have erased := fun other : Id => spawns.owned_nodup.mem_erase_iff (a := other) (b := id)
  refine { spawns with
    owned_nodup := spawns.owned_nodup.erase id, owned_born := ?_, busy := ?_, child := ?_ }
  · exact fun inside => spawns.owned_born (List.mem_of_mem_erase inside)
  · intro other something
    refine (spawns.busy something).imp_left fun ⟨inside, ready⟩ =>
      ⟨(erased other).mpr ⟨?_, inside⟩, ready⟩
    rintro rfl
    exact something free
  · intro parent child is
    have owned := spawns.child is
    refine ⟨(erased child).mpr ⟨?_, owned.1⟩, owned.2⟩
    rintro rfl
    cases owned.2.symm.trans ready

theorem finishJob {id : Id} (found : state.pool.workers[worker]? = some (.running id))
    (free : state.spawning id = .nothing) (finished : state.pool.finish worker = some pool) :
    Spawns { state with pool } := by
  simp only [BlockingPool.State.finish, found, Option.some.injEq] at finished
  rcases spawns.tracked.finish found with ⟨tracked, live, runs, -⟩
  rw [finished] at tracked live runs
  refine { spawns with tracked, live_born := ?_, busy := ?_ }
  · exact fun inside => spawns.live_born ((live _).mp inside).2
  · intro other something
    refine (spawns.busy something).imp_right fun running => (runs other).mpr ⟨?_, running⟩
    rintro rfl
    exact something free

end Spawns

end CoroRuntime.Shutdown
