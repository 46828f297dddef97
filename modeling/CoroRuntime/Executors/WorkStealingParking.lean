import CoroRuntime.Executors.WorkStealingLoop

/-! # The work-stealing executor never sleeps on work

When every worker is past its last look at the injection queue, whatever is queued was
pushed by a thread that is not a worker. That thread finds nobody searching and an idle
worker to unpark.
-/

namespace CoroRuntime.Executors.WorkStealing

open Foundation
open Function (update_self update_of_ne)

variable {config : Config} {Task : Type u} {Foreign : Type v}
  {state next : State config Task Foreign} {worker : Fin config.workers}

/-! ## Duties -/

theorem Inv.setRing (inv : Inv state) (isOpen : (state.phase worker).emptied = false)
    (sound : ∀ ring, (state.phase worker).Sound config ring) (ring : List Task) :
    Inv (state.setRing worker ring) where
  __ := inv
  fits other :=
    { inv.fits other with
      sound := by
        by_cases here : other = worker
        · rw [here]
          exact sound _
        · simp only [update_of_ne here]
          exact (inv.fits other).sound
      ring := by
        intro emptied
        have apart : other ≠ worker := by
          rintro rfl
          rw [State.setRing, isOpen] at emptied
          cases emptied
        exact (update_of_ne apart ..).trans ((inv.fits other).ring emptied) }

/-- Tasks are pushed onto the injection queue, and somebody will see to them. -/
theorem Inv.inject (inv : Inv state)
    (seen : tasks = [] ∨ (∃ thread, (state.duty thread).announces) ∨
      ∃ worker, (state.phase worker).committed = false) :
    Inv { state with injection := state.injection ++ tasks } where
  __ := inv
  fits other := { inv.fits other with }
  announced := by
    intro nonempty all
    rcases seen with rfl | announces | ⟨worker, isOpen⟩
    · exact inv.announced (by simpa using nonempty) all
    · exact .inl announces
    · exact absurd (all worker) (by simp [isOpen])

structure Reassigns (thread : Thread config Foreign) (state next : State config Task Foreign) :
    Prop where
  duty : ∀ other, other ≠ thread → next.duty other = state.duty other
  owes : ∀ worker, thread = .worker worker → next.duty thread ≠ .none →
    (state.phase worker).owes
  remote : ∀ caller, thread = .foreign caller → (next.duty thread).isLocal = false
  targets : ∀ index ∈ (next.duty thread).targets, index < config.workers
  /-- what it was to announce is known -/
  announced : (state.duty thread).announces → (next.duty thread).announces ∨
    (∃ worker, next.parkState worker = .notified) ∨
    ∃ worker, (state.phase worker).committed = false
  park : ∀ worker, next.parkState worker = state.parkState worker ∨
    next.parkState worker = .notified
  turning : ∀ worker, state.phase worker = .turning true → next.parkState worker = .notified →
    next.token ∨ ∃ thread index targets,
      next.duty thread = .delivering .parkedDriver index targets
  waiting : ∀ worker, state.phase worker = .waiting false → next.parkState worker = .notified →
    ∃ thread targets, next.duty thread = .delivering .parkedCondvar worker.val targets
  phase : next.phase = state.phase
  lifo : next.lifo = state.lifo
  ring : next.ring = state.ring
  driver : next.driver = state.driver
  idleMask : next.idleMask = state.idleMask
  searching : next.searching = state.searching
  injection : next.injection = state.injection

theorem Reassigns.inv (moved : Reassigns thread state next) (inv : Inv state) : Inv next := by
  rcases moved with ⟨duty, owes, remote, targets, announced, park, turning, waiting, phase, lifo,
    ring, driver, idleMask, searching, injection⟩
  constructor
  case fits =>
    intro worker
    have fits := inv.fits worker
    rw [← phase] at owes
    constructor
    · rw [phase, lifo]
      exact fits.lifo
    · rw [phase, ring]
      exact fits.ring
    · by_cases here : Thread.worker worker = thread
      · rw [here]
        exact owes worker here.symm
      · rw [duty _ here, phase]
        exact fits.owes
    · rw [phase, driver]
      exact fits.driver
    · rcases park worker with same | notified
      · rw [phase, same]
        exact fits.park
      · exact .inl notified
    · rw [phase, ring]
      exact fits.sound
  case foreign =>
    intro caller
    by_cases here : Thread.foreign caller = thread
    · rw [here]
      exact remote caller here.symm
    · rw [duty _ here]
      exact inv.foreign caller
  case targets =>
    intro other
    by_cases here : other = thread
    · rw [here]
      exact targets
    · rw [duty _ here]
      exact inv.targets other
  case announced =>
    rw [injection, phase]
    intro nonempty all
    rcases inv.announced nonempty all with ⟨other, announces⟩ | ⟨worker, notified⟩
    · by_cases here : other = thread
      · subst here
        rcases announced announces with announces | notified | ⟨worker, isOpen⟩
        · exact .inl ⟨other, announces⟩
        · exact .inr notified
        · exact absurd (all worker) (by simp [isOpen])
      · exact .inl ⟨other, by rwa [duty _ here]⟩
    · refine .inr ⟨worker, ?_⟩
      rcases park worker with same | banked
      · rw [same, notified]
      · exact banked
  case turning =>
    rw [phase]
    exact turning
  case waiting =>
    rw [phase]
    exact waiting
  case idle =>
    rw [idleMask, phase]
    exact inv.idle
  case outside =>
    rw [idleMask]
    exact inv.outside
  case searching =>
    rw [searching, phase]
    exact inv.searching

/-- Unless it was about to deliver a token, a thread may be given anything else to do. -/
theorem Inv.owe [DecidableEq Foreign] (inv : Inv state)
    (owes : ∀ worker, thread = .worker worker → duty ≠ .none → (state.phase worker).owes)
    (remote : ∀ caller, thread = .foreign caller → duty.isLocal = false)
    (targets : ∀ index ∈ duty.targets, index < config.workers)
    (announced : (state.duty thread).announces → duty.announces ∨
      (∃ worker, state.parkState worker = .notified) ∨
      ∃ worker, (state.phase worker).committed = false)
    (idle : ∀ previous index rest, state.duty thread ≠ .delivering previous index rest) :
    Inv (state.owe thread duty) := by
  have same : ∀ other, other ≠ thread → (state.owe thread duty).duty other = state.duty other :=
    fun other apart => update_of_ne apart ..
  have now : (state.owe thread duty).duty thread = duty := update_self ..
  have delivers : ∀ {other previous index rest},
      state.duty other = .delivering previous index rest →
      (state.owe thread duty).duty other = .delivering previous index rest := by
    intro other previous index rest is
    rw [same other (by rintro rfl; exact idle _ _ _ is), is]
  have moved : Reassigns thread state (state.owe thread duty) := by
    refine ⟨same, now.symm ▸ owes, now.symm ▸ remote, now.symm ▸ targets, now.symm ▸ announced,
      fun _ => .inl rfl, ?_, ?_, rfl, rfl, rfl, rfl, rfl, rfl, rfl⟩
    · intro worker turning notified
      rcases inv.turning worker turning notified with banked | ⟨other, index, rest, is⟩
      · exact .inl banked
      · exact .inr ⟨other, index, rest, delivers is⟩
    · intro worker waiting notified
      rcases inv.waiting worker waiting notified with ⟨other, rest, is⟩
      exact ⟨other, rest, delivers is⟩
  exact moved.inv inv

/-- A worker that may owe something is awake. -/
theorem owes_open {phase : Phase Task} (owes : phase.owes) :
    phase.committed = false ∧ phase.emptied = false ∧
      ∀ config ring, phase.Sound config ring := by
  simp only [Phase.owes] at owes
  split at owes
  all_goals first | exact ⟨rfl, rfl, fun _ _ => trivial⟩ | cases owes

theorem targets_unparks (targets : List Nat) :
    (Duty.unparks targets : Duty Task).targets = targets := by
  cases targets <;> rfl

theorem announces_unparks (nonempty : targets ≠ []) :
    (Duty.unparks targets : Duty Task).announces := by
  cases targets with
  | nil => exact absurd rfl nonempty
  | cons => rfl

theorem isLocal_unparks (targets : List Nat) :
    (Duty.unparks targets : Duty Task).isLocal = false := by
  cases targets <;> rfl

/-- While somebody searches, not everybody is about to block. -/
theorem Inv.searcher (inv : Inv state) (nonempty : 0 < state.searching) :
    ∃ worker, (state.phase worker).committed = false := by
  rw [inv.searching, List.countP_pos_iff] at nonempty
  rcases nonempty with ⟨worker, -, searches⟩
  refine ⟨worker, ?_⟩
  cases phase : state.phase worker <;> rw [phase] at searches <;> first | rfl | cases searches

theorem committed_idle {phase : Phase Task} (committed : phase.committed) : phase.idle := by
  simp only [Phase.committed] at committed
  split at committed
  all_goals first | rfl | cases committed

/-- Where everybody is about to block, the mask names somebody. -/
theorem Inv.wakes (inv : Inv state) (nonempty : 0 < count) :
    wakeTargets count state.idleMask ≠ [] ∨
      ∃ worker, (state.phase worker).committed = false := by
  let first : Fin config.workers := ⟨0, config.positive⟩
  cases committed : (state.phase first).committed with
  | false => exact .inr ⟨first, committed⟩
  | true =>
    have idle : state.idleMask.getLsbD first.val := by
      rw [inv.idle first]
      exact committed_idle committed
    exact .inl (wakeTargets_ne_nil idle nonempty)

theorem Inv.wakeTargets_lt (inv : Inv state) (target : index ∈ wakeTargets count state.idleMask) :
    index < config.workers := by
  by_contra beyond
  have idle := getLsbD_of_mem_wakeTargets target
  rw [inv.outside (Nat.not_lt.mp beyond)] at idle
  cases idle

theorem targets_afterUnpark :
    (Duty.afterUnpark previous index rest : Duty Task).targets ⊆ index :: rest := by
  cases previous
  case parkedDriver | parkedCondvar => exact List.Subset.refl _
  all_goals
    rw [Duty.afterUnpark, targets_unparks]
    exact List.subset_cons_self _ _

theorem isLocal_afterUnpark :
    (Duty.afterUnpark previous index rest : Duty Task).isLocal = false := by
  cases previous
  case parkedDriver | parkedCondvar => rfl
  all_goals exact isLocal_unparks rest

section

variable (inv : Inv state)

include inv

/-- The token is banked before anything else is done about the worker. -/
theorem Inv.notify [DecidableEq Foreign] (worker : Fin config.workers)
    (unparking : state.duty thread = .unparking (worker.val :: rest)) :
    Inv ((state.setPark worker .notified).owe thread
      (.afterUnpark (state.parkState worker) worker.val rest)) := by
  have now : ((state.setPark worker .notified).owe thread
      (.afterUnpark (state.parkState worker) worker.val rest)).duty thread =
      .afterUnpark (state.parkState worker) worker.val rest := update_self ..
  have delivers : ∀ {other previous index targets},
      state.duty other = .delivering previous index targets →
      ((state.setPark worker .notified).owe thread
        (.afterUnpark (state.parkState worker) worker.val rest)).duty other =
        .delivering previous index targets := by
    intro other previous index targets is
    have apart : other ≠ thread := by
      rintro rfl
      rw [unparking] at is
      cases is
    exact (update_of_ne apart ..).trans is
  have park : ∀ other, other ≠ worker → ((state.setPark worker .notified).owe thread
      (.afterUnpark (state.parkState worker) worker.val rest)).parkState other =
      state.parkState other := fun other apart => update_of_ne apart ..
  have targets := inv.targets thread
  have slot := (inv.fits worker).park
  rw [unparking] at targets
  have moved : Reassigns thread state ((state.setPark worker .notified).owe thread
      (.afterUnpark (state.parkState worker) worker.val rest)) := by
    refine ⟨fun other apart => update_of_ne apart .., ?_, ?_, ?_, ?_, ?_, ?_, ?_, rfl, rfl,
      rfl, rfl, rfl, rfl, rfl⟩
    · rintro other rfl _
      exact (inv.fits other).owes (by rw [unparking]; nofun)
    · rw [now]
      exact fun _ _ => isLocal_afterUnpark
    · rw [now]
      exact fun index target => targets index (targets_afterUnpark target)
    · exact fun _ => .inr (.inl ⟨worker, update_self ..⟩)
    · intro other
      by_cases here : other = worker
      · subst here
        exact .inr (update_self ..)
      · exact .inl (park other here)
    · intro other turning notified
      by_cases here : other = worker
      · subst here
        rw [turning] at slot
        rcases slot with banked | parked
        · rcases inv.turning other turning banked with token | ⟨thread, index, targets, is⟩
          · exact .inl token
          · exact .inr ⟨thread, index, targets, delivers is⟩
        · refine .inr ⟨thread, other.val, rest, ?_⟩
          rw [now, parked]
          rfl
      · rw [park other here] at notified
        rcases inv.turning other turning notified with token | ⟨thread, index, targets, is⟩
        · exact .inl token
        · exact .inr ⟨thread, index, targets, delivers is⟩
    · intro other waiting notified
      by_cases here : other = worker
      · subst here
        rw [waiting] at slot
        rcases slot with banked | parked
        · rcases inv.waiting other waiting banked with ⟨thread, targets, is⟩
          exact ⟨thread, targets, delivers is⟩
        · refine ⟨thread, rest, ?_⟩
          rw [now, parked]
          rfl
      · rw [park other here] at notified
        rcases inv.waiting other waiting notified with ⟨thread, targets, is⟩
        exact ⟨thread, targets, delivers is⟩
  exact moved.inv inv

theorem Inv.delivered [DecidableEq Foreign]
    (delivering : state.duty thread = .delivering previous index rest)
    (driver : previous = .parkedDriver → state.token)
    (condvar : ∀ worker, state.phase worker = .waiting false → previous = .parkedCondvar →
      index ≠ worker.val) : Inv (state.owe thread (.unparks rest)) := by
  have now : (state.owe thread (.unparks rest)).duty thread = .unparks rest :=
    update_self ..
  have same : ∀ other, other ≠ thread →
      (state.owe thread (.unparks rest)).duty other = state.duty other :=
    fun other apart => update_of_ne apart ..
  have targets := inv.targets thread
  rw [delivering] at targets
  have moved : Reassigns thread state (state.owe thread (.unparks rest)) := by
    refine ⟨same, ?_, ?_, ?_, ?_, fun _ => .inl rfl, ?_, ?_, rfl, rfl, rfl, rfl, rfl, rfl, rfl⟩
    · rintro other rfl _
      exact (inv.fits other).owes (by rw [delivering]; nofun)
    · rw [now]
      exact fun _ _ => isLocal_unparks rest
    · rw [now, targets_unparks]
      exact fun index target => targets index (List.mem_cons_of_mem _ target)
    · rw [delivering]
      nofun
    · intro worker turning notified
      rcases inv.turning worker turning notified with token | ⟨other, index, targets, is⟩
      · exact .inl token
      by_cases here : other = thread
      · subst here
        rw [delivering] at is
        cases is
        exact .inl (driver rfl)
      · exact .inr ⟨other, index, targets, (same other here).trans is⟩
    · intro worker waiting notified
      rcases inv.waiting worker waiting notified with ⟨other, targets, is⟩
      by_cases here : other = thread
      · subst here
        rw [delivering] at is
        cases is
        exact absurd rfl (condvar worker waiting rfl)
      · exact ⟨other, targets, (same other here).trans is⟩
  exact moved.inv inv

theorem Inv.setToken : Inv { state with token := true } where
  __ := inv
  fits other := { inv.fits other with }
  turning _ _ _ := .inl rfl

theorem Inv.deliver [DecidableEq Foreign] (worker : Fin config.workers)
    (delivering : state.duty thread = .delivering previous worker.val rest) :
    Inv ((state.owe thread (.unparks rest)).deliver previous worker) := by
  unfold State.deliver
  split
  · exact inv.setToken.delivered delivering (fun _ => rfl) nofun
  · rename_i signalled was
    replace was : state.phase worker = .waiting signalled := was
    have quiet : state.duty (.worker worker) = .none := by
      by_contra owed
      have owes := (inv.fits worker).owes owed
      rw [was] at owes
      cases owes
    have signal : Inv (state.goto worker (.waiting true)) :=
      inv.of_moves quiet (inv.goOn quiet was rfl)
    refine signal.delivered delivering nofun ?_
    intro other waiting _ here
    rw [← Fin.ext here, State.phase_goto] at waiting
    cases waiting
  · rename_i notDriver notWaiting
    refine inv.delivered delivering (fun is => absurd is notDriver) ?_
    intro other waiting is here
    exact notWaiting false is (Fin.ext here ▸ waiting)

theorem Inv.discharge [DecidableEq Foreign] (stepped : state.discharge thread = some next) :
    Inv next := by
  have owes : ∀ worker, thread = .worker worker → state.duty thread ≠ .none →
      (state.phase worker).owes := by
    rintro worker rfl
    exact (inv.fits worker).owes
  simp only [State.discharge] at stepped
  split at stepped
  all_goals rename_i owed
  case h_1 => cases stepped
  case h_2 task notify =>
    split at stepped
    · cases stepped
    rename_i worker
    cases stepped
    have awake := owes worker rfl (by rw [owed]; nofun)
    have isOpen := owes_open awake
    refine (inv.setRing isOpen.2.1 (isOpen.2.2 config) _).owe ?_ nofun ?_ ?_ ?_
    · rintro _ ⟨⟩ _
      exact awake
    · split
      · cases notify <;> nofun
      · nofun
    · exact fun _ => .inr (.inr ⟨worker, isOpen.1⟩)
    · rw [State.setRing, owed]
      nofun
  case h_3 tasks notify =>
    cases stepped
    have byWorker : ∃ worker, thread = .worker worker := by
      cases thread with
      | worker worker => exact ⟨worker, rfl⟩
      | foreign caller =>
        have remote := inv.foreign caller
        rw [owed] at remote
        cases remote
    rcases byWorker with ⟨worker, rfl⟩
    have awake := owes worker rfl (by rw [owed]; nofun)
    have isOpen : ∃ worker, (state.phase worker).committed = false :=
      ⟨worker, (owes_open awake).1⟩
    have next : Inv (state.owe (.worker worker) (.afterPush notify)) := by
      refine inv.owe ?_ nofun ?_ (fun _ => .inr (.inr isOpen)) (by rw [owed]; nofun)
      · rintro _ ⟨⟩ _
        exact awake
      · cases notify <;> nofun
    exact next.inject (.inr (.inr isOpen))
  case h_4 tasks batch =>
    cases stepped
    have next : Inv (state.owe thread
        (if batch then .gathering tasks.length else .deciding)) := by
      refine inv.owe ?_ ?_ ?_ (by rw [owed]; nofun) (by rw [owed]; nofun)
      · exact fun worker is _ => owes worker is (by rw [owed]; nofun)
      · cases batch <;> exact fun _ _ => rfl
      · cases batch <;> nofun
    refine next.inject ?_
    cases tasks with
    | nil => exact .inl rfl
    | cons task rest =>
      refine .inr (.inl ⟨thread, ?_⟩)
      simp only [update_self]
      cases batch <;> rfl
  case h_5 =>
    cases stepped
    refine inv.owe ?_ ?_ ?_ ?_ (by rw [owed]; nofun)
    · exact fun worker is _ => owes worker is (by rw [owed]; nofun)
    · intro _ _
      split <;> rfl
    · split <;> nofun
    · intro _
      split
      · rename_i nonempty
        exact .inr (.inr (inv.searcher nonempty))
      · exact .inl rfl
  case h_6 =>
    cases stepped
    refine inv.owe ?_ ?_ ?_ ?_ (by rw [owed]; nofun)
    · exact fun worker is _ => owes worker is (by rw [owed]; nofun)
    · exact fun _ _ => isLocal_unparks _
    · rw [targets_unparks]
      exact fun _ => inv.wakeTargets_lt
    · intro _
      rcases inv.wakes Nat.one_pos with nonempty | isOpen
      · exact .inl (announces_unparks nonempty)
      · exact .inr (.inr isOpen)
  case h_7 count =>
    cases stepped
    refine inv.owe ?_ ?_ ?_ ?_ (by rw [owed]; nofun)
    · exact fun worker is _ => owes worker is (by rw [owed]; nofun)
    · exact fun _ _ => isLocal_unparks _
    · rw [targets_unparks]
      exact fun _ => inv.wakeTargets_lt
    · rw [owed]
      intro announces
      cases count with
      | zero => cases announces
      | succ count =>
        rcases inv.wakes (Nat.succ_pos count) with nonempty | isOpen
        · exact .inl (announces_unparks nonempty)
        · exact .inr (.inr isOpen)
  case h_8 => cases stepped
  case h_9 index rest =>
    split at stepped <;> cases stepped
    rename_i inside
    exact inv.notify ⟨index, inside⟩ owed
  case h_10 previous index rest =>
    split at stepped <;> cases stepped
    rename_i inside
    exact inv.deliver ⟨index, inside⟩ owed

/-! ## Steps -/

theorem Inv.quiet (was : state.phase worker = phase) (awake : phase.owes = false) :
    state.duty (.worker worker) = .none := by
  by_contra owed
  have owes := (inv.fits worker).owes owed
  rw [was, awake] at owes
  cases owes

theorem Inv.setBatches [DecidableEq Foreign] (thread : Thread config Foreign)
    (batches : List (List Task)) : Inv (state.setBatches thread batches) where
  __ := inv
  fits other := { inv.fits other with }

omit inv in
theorem runsCode_owes (runs : state.runsCode (.worker worker)) : (state.phase worker).owes := by
  simp only [State.runsCode] at runs
  split at runs
  all_goals first | (rename_i was; rw [was]; rfl) | cases runs

/-- The LIFO slot is filled in a poll or at the end of a pass, when nothing is said about it. -/
theorem Inv.pushLifo (quiet : state.duty (.worker worker) = .none)
    (runs : state.runsCode (.worker worker))
    (polls : ∀ blocking unparked dispatched,
      state.phase worker ≠ .dispatching blocking unparked dispatched) (lifo : Option Task) :
    Inv (state.setLifo worker lifo) := by
  have filled : ∀ {phase}, state.phase worker = phase → Phase.Like phase phase →
      phase.drained = false → phase.emptied = false → phase.committed = false →
      phase.Sound config (state.ring worker) → Inv (state.setLifo worker lifo) := by
    intro phase was like drained emptied committed sound
    exact inv.of_moves quiet (inv.plain (Elsewhere.refl.setLifo lifo) was was like
      (fun now => absurd now (by simp [drained])) (fun now => absurd now (by simp [emptied]))
      .none quiet (.inl rfl) (fun now => absurd now (by simp [committed])) sound rfl)
  simp only [State.runsCode] at runs
  split at runs
  · rename_i was
    exact filled was (.of rfl) rfl rfl rfl trivial
  · rename_i was
    exact absurd was (polls _ _ _)
  · rename_i was
    exact filled was (.of rfl) rfl rfl rfl trivial
  · cases runs

theorem Inv.route [DecidableEq Foreign] (quiet : state.duty thread = .none)
    (runs : state.runsCode thread) :
    Inv (state.route thread task) := by
  cases thread with
  | foreign caller =>
    exact inv.owe nofun (fun _ _ => rfl) nofun (by rw [quiet]; nofun) (by rw [quiet]; nofun)
  | worker worker =>
    have pushes : ∀ {next : State config Task Foreign} {task notify}, Inv next →
        next.duty (.worker worker) = .none → next.phase worker = state.phase worker →
        Inv (next.owe (.worker worker) (.pushing task notify)) := by
      intro next task notify inv quiet same
      refine inv.owe ?_ nofun nofun (by rw [quiet]; nofun) (by rw [quiet]; nofun)
      rintro _ ⟨⟩ _
      rw [same]
      exact runsCode_owes runs
    simp only [State.route]
    split
    · exact pushes inv quiet rfl
    · rename_i polls
      exact inv.pushLifo quiet runs polls (some task)
    · rename_i polls
      exact pushes (inv.pushLifo quiet runs polls (some task)) quiet rfl

theorem Inv.enqueue [DecidableEq Foreign] (quiet : state.duty thread = .none)
    (runs : state.runsCode thread) :
    Inv (state.enqueue thread task refused) := by
  simp only [State.enqueue]
  split
  · exact inv.setBatches thread _
  · exact inv.route quiet runs

theorem Inv.closeBatch [DecidableEq Foreign] (quiet : state.duty thread = .none)
    (runs : state.runsCode thread) :
    Inv (state.owe thread (.injecting batch true)) := by
  refine inv.owe ?_ (fun _ _ => rfl) nofun (by rw [quiet]; nofun) (by rw [quiet]; nofun)
  rintro worker rfl _
  exact runsCode_owes runs

theorem Inv.endPoll [DecidableEq Foreign] {requeue : Bool}
    (quiet : state.duty (.worker worker) = .none)
    (was : state.phase worker = .running task) :
    Inv (((if requeue then state.owe (.worker worker) (.pushing task true)
      else state).setCounters worker counters).goto worker (.turnCheck yielded)) := by
  cases requeue with
  | true =>
    rw [if_pos rfl]
    exact inv.of_moves quiet (inv.plain (((Elsewhere.refl.owe _).setCounters _).goto _) was
      State.phase_goto (.of rfl) nofun nofun (.pushing task true) (update_self ..)
      (.inr ⟨rfl, rfl⟩) nofun trivial rfl)
  | false =>
    rw [if_neg nofun]
    exact inv.of_moves quiet (inv.plain ((Elsewhere.refl.setCounters _).goto _) was
      State.phase_goto (.of rfl) nofun nofun .none quiet (.inl rfl) nofun trivial rfl)

theorem Inv.pollReturn (was : state.phase worker = .turning blocking) :
    Inv (state.goto worker (.dispatching blocking state.token 0)) := by
  have quiet := inv.quiet was rfl
  cases blocking
  all_goals exact inv.of_moves quiet (inv.goOn quiet was rfl)

/-- Whoever handles events holds the driver, so nobody is blocked in it. -/
theorem Inv.resetToken (was : state.phase worker = .dispatching blocking unparked dispatched) :
    Inv { state with token := false } where
  __ := inv
  fits other := { inv.fits other with }
  turning := by
    intro other turning _
    have held := (inv.fits worker).driver.mp (was ▸ rfl)
    have also := (inv.fits other).driver.mp (by rw [turning]; rfl)
    rw [held, Option.some.injEq] at also
    rw [← also, was] at turning
    cases turning

theorem Inv.endTurn (quiet : state.duty (.worker worker) = .none)
    (was : state.phase worker = .dispatching blocking false dispatched) :
    Inv ({ state with driver := none }.goto worker
      (if blocking then .settling (some dispatched) else .afterTurn dispatched false)) := by
  have held := (inv.fits worker).driver.mp (was ▸ rfl)
  have others : ∀ other, other ≠ worker →
      (none = some other ↔ state.driver = some other) := by
    intro other apart
    simp [held, apart.symm]
  cases blocking with
  | true | false =>
    exact inv.of_moves quiet (((Elsewhere.refl.setDriver _).goto _).moves was State.phase_goto
      nofun nofun .none quiet (.inl rfl) nofun (inv.sameIdle was rfl) rfl ⟨nofun, nofun⟩ others
      (inv.samePark was rfl) nofun trivial)

theorem Inv.wakeUp (was : state.phase worker = .waiting signalled) :
    Inv (if state.parkState worker = .notified then
      (state.setPark worker .empty).goto worker (.clearing (.woken 0))
      else state.goto worker (.waiting false)) := by
  have quiet := inv.quiet was rfl
  have fits := inv.fits worker
  split
  · exact inv.of_moves quiet (((Elsewhere.refl.setPark _).goto _).moves was State.phase_goto nofun
      nofun .none quiet (.inl rfl) nofun (inv.sameIdle was rfl) rfl (inv.sameHolds was rfl)
      (fun _ _ => .rfl) (.inr (update_self ..)) nofun trivial)
  · rename_i unnotified
    exact inv.of_moves quiet ((Elsewhere.refl.goto _).moves was State.phase_goto
      (fun _ => fits.lifo (was ▸ rfl)) (fun _ => fits.ring (was ▸ rfl)) .none quiet (.inl rfl)
      (fun _ nonempty => ⟨nonempty, rfl, fun notified => absurd notified unnotified⟩)
      (inv.sameIdle was rfl) rfl (inv.sameHolds was rfl) (fun _ _ => .rfl)
      (inv.samePark was rfl) (fun _ => unnotified) trivial)

theorem Inv.step [DecidableEq Foreign] (stepped : step state action = some next) : Inv next := by
  cases action
  all_goals simp only [WorkStealing.step] at stepped
  case advance worker =>
    split at stepped
    · rename_i quiet
      exact inv.of_moves quiet (inv.advance quiet stepped)
    · cases stepped
  case discharge thread => exact inv.discharge stepped
  case enqueue thread task refused =>
    split at stepped <;> cases stepped
    rename_i quiet runs
    exact inv.enqueue quiet runs
  case openBatch thread =>
    split at stepped <;> cases stepped
    exact inv.setBatches thread _
  case closeBatch thread =>
    split at stepped <;> cases stepped
    · exact inv.setBatches thread _
    · rename_i quiet runs _
      exact (inv.setBatches thread _).closeBatch quiet runs
  case endPoll worker requeue budget yielded =>
    split at stepped <;> cases stepped
    rename_i quiet was _
    exact inv.endPoll quiet was
  case pollReturn worker =>
    split at stepped <;> cases stepped
    rename_i was
    exact inv.pollReturn was
  case dispatch worker =>
    split at stepped <;> cases stepped
    rename_i blocking _ _ quiet was
    cases blocking
    all_goals exact inv.of_moves quiet (inv.goOn quiet was rfl)
  case resetUnpark worker =>
    split at stepped <;> cases stepped
    rename_i blocking _ quiet was
    have reset := inv.resetToken was
    cases blocking
    all_goals exact reset.of_moves quiet (reset.goOn quiet was rfl)
  case endTurn worker =>
    split at stepped <;> cases stepped
    rename_i quiet was
    exact inv.endTurn quiet was
  case wakeUp worker =>
    split at stepped
    · rename_i was
      have woken := inv.wakeUp was
      split at stepped
      · rename_i notified
        cases stepped
        rwa [if_pos notified] at woken
      · rename_i unnotified
        cases stepped
        rwa [if_neg unnotified] at woken
    · cases stepped
  case stop caller =>
    split at stepped <;> cases stepped
    rename_i quiet
    have stopped : Inv { state with stop := true } :=
      { inv with fits := fun other => { inv.fits other with } }
    refine stopped.owe nofun (fun _ _ => isLocal_unparks _) ?_ (by rw [quiet]; nofun)
      (by rw [quiet]; nofun)
    rw [targets_unparks]
    exact fun _ => List.mem_range.mp

end

theorem inv_of_reaches [DecidableEq Foreign]
    (reached : (machine config Task Foreign).Reaches anyMove state) :
    Inv state := by
  have initially : Inv ({} : State config Task Foreign) := by
    refine ⟨fun _ => ⟨fun _ => rfl, nofun, fun nonempty => absurd rfl nonempty, ⟨nofun, nofun⟩,
      .inr rfl, trivial⟩, ?_, ?_, ?_, fun _ => rfl, nofun, fun nonempty => absurd rfl nonempty,
      nofun, nofun⟩
    · exact fun _ => BitVec.getLsbD_zero
    · exact fun _ => BitVec.getLsbD_zero
    · exact (List.countP_eq_zero.mpr fun _ _ => Bool.false_ne_true).symm
  exact reached.invariant Inv (fun _ _ _ inv _ stepped => inv.step stepped) initially

def State.Blocked (state : State config Task Foreign) (worker : Fin config.workers) : Prop :=
  state.phase worker = .turning true ∨ ∃ signalled, state.phase worker = .waiting signalled

def State.HasWork (state : State config Task Foreign) : Prop :=
  state.injection ≠ [] ∨ ∃ worker, state.ring worker ≠ [] ∨ state.lifo worker ≠ none

/-- Everyone is blocked although there is work, and nothing will change that: no token is
banked, nobody is about to unpark, or between a push and the decision whether to. -/
structure State.Asleep (state : State config Task Foreign) : Prop where
  work : state.HasWork
  blocked : ∀ worker, state.Blocked worker
  unnotified : ∀ worker, state.parkState worker ≠ .notified
  unannounced : ∀ thread, (state.duty thread).announces = false

structure State.Wakes (state : State config Task Foreign) (worker : Fin config.workers) :
    Prop where
  driver : state.phase worker = .turning true → state.token ∨ ∃ thread index targets,
    state.duty thread = .delivering .parkedDriver index targets
  condvar : state.phase worker = .waiting false →
    ∃ thread targets, state.duty thread = .delivering .parkedCondvar worker.val targets

structure NeverSleeps (state : State config Task Foreign) : Prop where
  awake : ¬ state.Asleep
  wakes : ∀ worker, state.parkState worker = .notified → state.Wakes worker
  /-- No worker takes a task from an empty queue, if there are several of them. -/
  defined : 2 ≤ config.workers → ∀ worker, state.phase worker ≠ .undefined

theorem State.Blocked.committed (blocked : state.Blocked worker) :
    (state.phase worker).committed := by
  rcases blocked with turning | ⟨signalled, waiting⟩
  · rw [turning]
    rfl
  · rw [waiting]
    rfl

theorem State.Blocked.emptied (blocked : state.Blocked worker) :
    (state.phase worker).emptied ∧ (state.phase worker).drained := by
  rcases blocked with turning | ⟨signalled, waiting⟩
  · rw [turning]
    exact ⟨rfl, rfl⟩
  · rw [waiting]
    exact ⟨rfl, rfl⟩

/-- In any interleaving of pushes from workers, from turns of the driver, from other threads
and through batches, the workers do not all block while a task is queued. -/
theorem never_sleeps_on_work [DecidableEq Foreign]
    (reached : (machine config Task Foreign).Reaches anyMove state) :
    NeverSleeps state := by
  have inv := inv_of_reaches reached
  constructor
  case awake =>
    rintro ⟨work, blocked, unnotified, unannounced⟩
    rcases work with queued | ⟨worker, kept | kept⟩
    · rcases inv.announced queued (fun worker => (blocked worker).committed) with
        ⟨thread, announces⟩ | ⟨worker, notified⟩
      · rw [unannounced thread] at announces
        cases announces
      · exact unnotified worker notified
    · exact kept ((inv.fits worker).ring (blocked worker).emptied.1)
    · exact kept ((inv.fits worker).lifo (blocked worker).emptied.2)
  case wakes =>
    intro worker notified
    exact ⟨fun turning => inv.turning worker turning notified,
      fun waiting => inv.waiting worker waiting notified⟩
  case defined =>
    intro several worker undefined
    have sound := (inv.fits worker).sound
    rw [undefined] at sound
    exact absurd sound (Nat.not_lt.mpr several)

/-- A task arrives when both workers are blocked, one in the driver and one on its condition
variable. -/
theorem never_sleeps_on_work_arrival :
    ∃ (config : Config) (state : State config Nat Nat),
      (machine config Nat Nat).Reaches anyMove state ∧ config.workers = 2 ∧
      (∀ worker, state.Blocked worker) ∧ state.injection = [7] ∧
      (∀ worker, state.parkState worker ≠ .notified) ∧ NeverSleeps state := by
  let config : Config := ⟨2, by decide, by decide⟩
  have reached := (machine config Nat Nat).reaches_exec anyMove
    (List.replicate 19 (.advance 0) ++ List.replicate 19 (.advance 1) ++
      [.enqueue (.foreign 0) 7 false, .discharge (.foreign 0)]) (by decide +kernel)
  refine ⟨config, _, reached, rfl, ?_, by decide +kernel, ?_, never_sleeps_on_work reached⟩
  · exact Fin.forall_fin_two.mpr ⟨.inl (by decide +kernel), .inr ⟨false, by decide +kernel⟩⟩
  · exact Fin.forall_fin_two.mpr ⟨by decide +kernel, by decide +kernel⟩

/-- `m_searching` counts the workers that search, the bits of `m_idle_mask` are those of the
idle ones, and at most one worker has the driver. -/
theorem shared_words_exact [DecidableEq Foreign]
    (reached : (machine config Task Foreign).Reaches anyMove state) :
    state.searching = ((List.finRange config.workers).countP fun worker =>
      (state.phase worker).searches) ∧
    (∀ index, state.idleMask.getLsbD index = true ↔
      ∃ worker : Fin config.workers, worker.val = index ∧ (state.phase worker).idle) ∧
    ∀ worker other, (state.phase worker).holds → (state.phase other).holds → worker = other := by
  have inv := inv_of_reaches reached
  refine ⟨inv.searching, ?_, ?_⟩
  · intro index
    constructor
    · intro set
      by_cases inside : index < config.workers
      · exact ⟨⟨index, inside⟩, rfl, (inv.idle ⟨index, inside⟩).symm.trans set⟩
      · rw [inv.outside (Nat.not_lt.mp inside)] at set
        cases set
    · rintro ⟨worker, rfl, idle⟩
      exact (inv.idle worker).trans idle
  · intro worker other holds holds'
    have driver := (inv.fits worker).driver.mp holds
    rw [(inv.fits other).driver.mp holds'] at driver
    exact (Option.some.inj driver).symm

/-- The first worker is blocked in the driver. -/
theorem shared_words_exact_blocked :
    ∃ (config : Config) (state : State config Nat Nat),
      (machine config Nat Nat).Reaches anyMove state ∧ state.phase ⟨0, config.positive⟩ =
        .turning true ∧ state.idleMask.getLsbD 0 = true := by
  let config : Config := ⟨2, by decide, by decide⟩
  have reached := (machine config Nat Nat).reaches_exec anyMove (List.replicate 19 (.advance 0))
    (by decide +kernel)
  exact ⟨config, _, reached, by decide +kernel,
    ((shared_words_exact reached).2.1 0).mpr ⟨0, rfl, by decide +kernel⟩⟩

end CoroRuntime.Executors.WorkStealing
