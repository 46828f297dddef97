import CoroRuntime.Executors.WorkStealing
import CoroRuntime.Foundation.Counting
import Mathlib.Data.List.FinRange

/-! # Moves of a worker of the work-stealing executor

What the phase of a worker says about the shared variables, and that every move of its loop
keeps to it. A worker that parks has looked at the injection queue after it set its idle
bit, and found nothing there or in its own queues.
-/

namespace CoroRuntime.Executors.WorkStealing

open Foundation
open Function (update_self update_of_ne update_apply)
open RunQueue (localQueueCapacity)

/-! ## The idle mask -/

theorem getLsbD_idleBit (index other : Nat) :
    (idleBit index).getLsbD other = (decide (other < 64) && decide (index = other)) := by
  rw [idleBit, BitVec.getLsbD_shiftLeft, BitVec.getLsbD_one]
  grind

theorem getLsbD_setIdle (mask : BitVec 64) (inside : index < 64) (other : Nat) :
    (mask ||| idleBit index).getLsbD other = (mask.getLsbD other || decide (index = other)) := by
  rw [BitVec.getLsbD_or, getLsbD_idleBit]
  grind

theorem getLsbD_clearIdle (mask : BitVec 64) (index other : Nat) :
    (mask &&& ~~~ idleBit index).getLsbD other =
      (mask.getLsbD other && !decide (index = other)) := by
  rw [BitVec.getLsbD_and, BitVec.getLsbD_not, getLsbD_idleBit]
  by_cases inside : other < 64
  · simp [inside]
  · simp [inside, BitVec.getLsbD_of_ge _ _ (Nat.not_lt.mp inside)]

theorem getLsbD_of_mem_wakeTargets (target : index ∈ wakeTargets count mask) :
    mask.getLsbD index := by
  induction count generalizing mask with
  | zero => cases target
  | succ count induction =>
    rw [wakeTargets] at target
    split at target
    · cases target
    · rename_i nonempty
      rcases List.mem_cons.mp target with rfl | later
      · exact BitVec.getLsbD_true_ctz_of_ne_zero nonempty
      · have both := induction later
        rw [BitVec.getLsbD_and, Bool.and_eq_true] at both
        exact both.1

theorem wakeTargets_ne_nil (idle : mask.getLsbD index) (nonempty : 0 < count) :
    wakeTargets count mask ≠ [] := by
  cases count with
  | zero => cases nonempty
  | succ count =>
    have nonzero : mask ≠ 0 := by
      rintro rfl
      simp at idle
    rw [wakeTargets, if_neg nonzero]
    exact List.cons_ne_nil _ _

/-! ## Batches -/

/-- Unless it is a single task, a batch fits in the free slots. -/
theorem Config.want_le_slots (config : Config) (length remainingSlots : Nat) :
    config.want length remainingSlots = 1 ∨
      config.want length remainingSlots ≤ remainingSlots := by
  simp only [Config.want]
  omega

/-- With more than one worker, a share of the queue plus one is never more than it holds. -/
theorem Config.want_le_length (config : Config) (several : 2 ≤ config.workers)
    (nonempty : 0 < length) :
    config.want length remainingSlots ≤ length := by
  have share : length / config.workers ≤ length / 2 := Nat.div_le_div_left several (by decide)
  simp only [Config.want]
  omega

/-! ## What a phase says -/

namespace Phase

variable {Task : Type u}

def idle : Phase Task → Bool
  | .recheckOwn _ | .recheckInjection _ | .looking _ | .parking | .beforePoll | .turning true
  | .dispatching true _ _ | .settling _ | .waiting _ | .clearing _ => true
  | _ => false

/-- It is counted in `m_searching`. -/
def searches : Phase Task → Bool
  | .sweeping _ | .rechecking | .recheckLock | .leaving _ => true
  | _ => false

/-- It has looked at the injection queue for the last time before it blocks. -/
def committed : Phase Task → Bool
  | .looking _ | .parking | .beforePoll | .turning true | .settling none | .waiting _ => true
  | _ => false

def drained : Phase Task → Bool
  | .periodic | .periodicLock | .own | .global | .globalLock | .search | .entering _ | .sweeping _
  | .rechecking | .recheckLock | .leaving _ | .idling _ | .recheckOwn _ | .recheckInjection _
  | .looking _ | .parking | .beforePoll | .turning true | .settling none | .waiting _ => true
  | _ => false

def emptied : Phase Task → Bool
  | .recheckInjection _ | .looking _ | .parking | .beforePoll | .turning true | .settling none
  | .waiting _ => true
  | _ => false

/-- It may have something to do for a task that it has made runnable. -/
def owes : Phase Task → Bool
  | .periodic | .running _ | .turnCheck _ | .stopCheck | .ending | .dispatching _ _ _ => true
  | _ => false

def holds : Phase Task → Bool
  | .beforePoll | .turning _ | .dispatching _ _ _ => true
  | _ => false

/-- What its slot says while no token is banked -/
def parkState : Phase Task → ParkState
  | .turning true | .dispatching true _ _ | .settling (some _) => .parkedDriver
  | .waiting _ => .parkedCondvar
  | _ => .empty

/-- What is left of a batch fits in the ring, and only a single worker ever takes more tasks
than there are. -/
def Sound (config : Config) (ring : List Task) : Phase Task → Prop
  | .refilling _ rest => rest = [] ∨ ring.length + rest.length ≤ localQueueCapacity
  | .undefined => config.workers < 2
  | _ => True

theorem Sound.shrink {phase : Phase Task} (sound : phase.Sound config ring)
    (fewer : after.length ≤ ring.length) : phase.Sound config after := by
  cases phase
  case refilling =>
    rcases sound with empty | fits
    · exact .inl empty
    · exact .inr (by omega)
  case undefined => exact sound
  all_goals exact trivial

end Phase

namespace Duty

variable {Task : Type u}

/-- The thread has pushed a task, and has not yet made sure that somebody finds it. -/
def announces : Duty Task → Bool
  | .deciding | .picking | .gathering (_ + 1) | .unparking (_ :: _) => true
  | _ => false

/-- It is about to push onto a worker's own ring, or has done so. -/
def isLocal : Duty Task → Bool
  | .pushing _ _ | .spilling _ _ => true
  | _ => false

def targets : Duty Task → List Nat
  | .unparking targets => targets
  | .delivering _ index targets => index :: targets
  | _ => []

end Duty

variable {config : Config} {Task : Type u} {Foreign : Type v}

/-- The worker's own queues, the driver and its slot agree with its phase. -/
structure Fits (state : State config Task Foreign) (worker : Fin config.workers) : Prop where
  lifo : (state.phase worker).drained → state.lifo worker = none
  ring : (state.phase worker).emptied → state.ring worker = []
  owes : state.duty (.worker worker) ≠ .none → (state.phase worker).owes
  driver : (state.phase worker).holds ↔ state.driver = some worker
  park : state.parkState worker = .notified ∨
    state.parkState worker = (state.phase worker).parkState
  sound : (state.phase worker).Sound config (state.ring worker)

structure Inv (state : State config Task Foreign) : Prop where
  fits : ∀ worker, Fits state worker
  idle : ∀ worker, state.idleMask.getLsbD worker.val = (state.phase worker).idle
  outside : ∀ {index}, config.workers ≤ index → state.idleMask.getLsbD index = false
  searching : state.searching =
    (List.finRange config.workers).countP fun worker => (state.phase worker).searches
  foreign : ∀ caller, (state.duty (.foreign caller)).isLocal = false
  targets : ∀ thread, ∀ index ∈ (state.duty thread).targets, index < config.workers
  /-- Somebody sees to it that what everybody has missed is found. -/
  announced : state.injection ≠ [] → (∀ worker, (state.phase worker).committed) →
    (∃ thread, (state.duty thread).announces) ∨ ∃ worker, state.parkState worker = .notified
  /-- A token that is banked for a worker in the driver will end its poll. -/
  turning : ∀ worker, state.phase worker = .turning true → state.parkState worker = .notified →
    state.token ∨ ∃ thread index targets,
      state.duty thread = .delivering .parkedDriver index targets
  waiting : ∀ worker, state.phase worker = .waiting false →
    state.parkState worker = .notified →
    ∃ thread targets, state.duty thread = .delivering .parkedCondvar worker.val targets

/-! ## Moves of one worker -/

theorem State.phase_goto {state : State config Task Foreign} {phase : Phase Task} :
    (state.goto worker phase).phase worker = phase :=
  update_self ..

/-- What is not the worker's stays as it is, but that a ring may lose tasks. -/
structure Elsewhere (worker : Fin config.workers) (state next : State config Task Foreign) :
    Prop where
  phase : ∀ other, other ≠ worker → next.phase other = state.phase other
  lifo : ∀ other, other ≠ worker → next.lifo other = state.lifo other
  parkState : ∀ other, other ≠ worker → next.parkState other = state.parkState other
  ring : ∀ other, other ≠ worker → (next.ring other).length ≤ (state.ring other).length
  duty : ∀ thread, thread ≠ .worker worker → next.duty thread = state.duty thread
  token : next.token = state.token

namespace Elsewhere

variable {worker : Fin config.workers} {state middle : State config Task Foreign}

theorem refl : Elsewhere worker state state :=
  ⟨fun _ _ => rfl, fun _ _ => rfl, fun _ _ => rfl, fun _ _ => Nat.le_refl _, fun _ _ => rfl, rfl⟩

variable (elsewhere : Elsewhere worker state middle)

include elsewhere

theorem goto (phase : Phase Task) : Elsewhere worker state (middle.goto worker phase) :=
  { elsewhere with
    phase := fun other apart =>
      (update_of_ne apart ..).trans (elsewhere.phase other apart) }

theorem setRing (ring : List Task) : Elsewhere worker state (middle.setRing worker ring) :=
  { elsewhere with
    ring := by
      intro other apart
      simp only [update_of_ne apart]
      exact elsewhere.ring other apart }

theorem setLifo (lifo : Option Task) : Elsewhere worker state (middle.setLifo worker lifo) :=
  { elsewhere with
    lifo := fun other apart =>
      (update_of_ne apart ..).trans (elsewhere.lifo other apart) }

theorem setPark (parkState : ParkState) :
    Elsewhere worker state (middle.setPark worker parkState) :=
  { elsewhere with
    parkState := fun other apart =>
      (update_of_ne apart ..).trans (elsewhere.parkState other apart) }

theorem setCounters (counters : Counters) :
    Elsewhere worker state (middle.setCounters worker counters) :=
  { elsewhere with }

omit elsewhere in
theorem owe [DecidableEq Foreign] (elsewhere : Elsewhere worker state middle) (duty : Duty Task) :
    Elsewhere worker state (middle.owe (.worker worker) duty) :=
  { elsewhere with
    duty := fun thread apart =>
      (update_of_ne apart ..).trans (elsewhere.duty thread apart) }

theorem steal {ring : List Task} (fewer : ring.length ≤ (middle.ring victim).length) :
    Elsewhere worker state (middle.setRing victim ring) :=
  { elsewhere with
    ring := by
      intro other apart
      have before := elsewhere.ring other apart
      simp only [update_apply]
      split
      · rename_i here
        rw [here] at before ⊢
        exact Nat.le_trans fewer before
      · exact before }

theorem setInjection (injection : List Task) : Elsewhere worker state { middle with injection } :=
  { elsewhere with }

theorem setSearching (searching : Nat) : Elsewhere worker state { middle with searching } :=
  { elsewhere with }

theorem setIdleMask (idleMask : BitVec 64) : Elsewhere worker state { middle with idleMask } :=
  { elsewhere with }

theorem setDriver
    (driver : Option (Fin config.workers)) : Elsewhere worker state { middle with driver } :=
  { elsewhere with }

end Elsewhere

structure Moves (worker : Fin config.workers) (state next : State config Task Foreign) : Prop where
  elsewhere : Elsewhere worker state next
  fits : Fits next worker
  targets : (next.duty (.worker worker)).targets = []
  idle : ∀ index, next.idleMask.getLsbD index =
    if index = worker.val then (next.phase worker).idle else state.idleMask.getLsbD index
  searching : next.searching + (state.phase worker).searches.toNat =
    state.searching + (next.phase worker).searches.toNat
  driver : ∀ other, other ≠ worker → (next.driver = some other ↔ state.driver = some other)
  /-- A worker commits itself only when it has found the injection queue empty. -/
  committed : (next.phase worker).committed → next.injection ≠ [] →
    state.injection ≠ [] ∧ (state.phase worker).committed ∧
    (state.parkState worker = .notified → next.parkState worker = .notified)
  blocks : next.phase worker = .turning true ∨ next.phase worker = .waiting false →
    next.parkState worker ≠ .notified

theorem Inv.of_moves {worker : Fin config.workers} (inv : Inv state)
    (quiet : state.duty (.worker worker) = .none) (moves : Moves worker state next) : Inv next := by
  rcases moves.elsewhere with ⟨phase, lifo, park, ring, duty, token⟩
  have same : ∀ thread {owed}, state.duty thread = owed → owed ≠ .none →
      next.duty thread = owed := by
    intro thread owed is nonempty
    rw [duty thread (by rintro rfl; exact nonempty (is.symm.trans quiet)), is]
  constructor
  case fits =>
    intro other
    by_cases here : other = worker
    · subst here
      exact moves.fits
    have fits := inv.fits other
    constructor
    · rw [phase other here, lifo other here]
      exact fits.lifo
    · rw [phase other here]
      intro emptied
      have shrunk := ring other here
      rwa [fits.ring emptied, List.length_nil, Nat.le_zero, List.length_eq_zero_iff] at shrunk
    · rw [phase other here, duty _ (by simpa using here)]
      exact fits.owes
    · rw [phase other here, moves.driver other here]
      exact fits.driver
    · rw [phase other here, park other here]
      exact fits.park
    · rw [phase other here]
      exact fits.sound.shrink (ring other here)
  case idle =>
    intro other
    rw [moves.idle]
    split
    · rename_i here
      rw [Fin.ext here]
    · rename_i apart
      rw [phase other (by rintro rfl; exact apart rfl), inv.idle]
  case outside =>
    intro index beyond
    rw [moves.idle, if_neg (by omega), inv.outside beyond]
  case searching =>
    have counted := countP_change (fun worker => (state.phase worker).searches)
      (fun worker => (next.phase worker).searches) (List.nodup_finRange config.workers)
      (List.mem_finRange worker) (fun other _ apart => by rw [phase other apart])
    have before := inv.searching
    have moved := moves.searching
    omega
  case foreign =>
    intro caller
    rw [duty (.foreign caller) nofun]
    exact inv.foreign caller
  case targets =>
    intro thread
    by_cases here : thread = .worker worker
    · rw [here, moves.targets]
      nofun
    · rw [duty thread here]
      exact inv.targets thread
  case announced =>
    intro nonempty all
    have before := moves.committed (all worker) nonempty
    have committed : ∀ other, (state.phase other).committed := by
      intro other
      by_cases here : other = worker
      · rw [here]
        exact before.2.1
      · rw [← phase other here]
        exact all other
    rcases inv.announced before.1 committed with ⟨thread, announces⟩ | ⟨other, notified⟩
    · have owed : state.duty thread ≠ .none := by
        intro none
        rw [none] at announces
        cases announces
      exact .inl ⟨thread, by rwa [same thread rfl owed]⟩
    · refine .inr ⟨other, ?_⟩
      by_cases here : other = worker
      · subst here
        exact before.2.2 notified
      · rw [park other here, notified]
  case turning =>
    intro other turning notified
    by_cases here : other = worker
    · subst here
      exact absurd notified (moves.blocks (.inl turning))
    rw [phase other here] at turning
    rw [park other here] at notified
    rw [token]
    rcases inv.turning other turning notified with banked | ⟨thread, index, targets, delivering⟩
    · exact .inl banked
    · exact .inr ⟨thread, index, targets, same thread delivering nofun⟩
  case waiting =>
    intro other waiting notified
    by_cases here : other = worker
    · subst here
      exact absurd notified (moves.blocks (.inr waiting))
    rw [phase other here] at waiting
    rw [park other here] at notified
    rcases inv.waiting other waiting notified with ⟨thread, targets, delivering⟩
    exact ⟨thread, targets, same thread delivering nofun⟩

/-- Two phases between which a worker touches neither mask nor count nor lock nor slot -/
structure Phase.Like (before after : Phase Task) : Prop where
  idle : after.idle = before.idle
  searches : after.searches = before.searches
  holds : after.holds = before.holds
  parkState : after.parkState = before.parkState
  blocks : after ≠ .turning true ∧ after ≠ .waiting false

namespace Phase

variable {before after : Phase Task}

def blocks : Phase Task → Bool
  | .turning true | .waiting false => true
  | _ => false

/-- `Sound` says nothing about it. -/
def unconditional : Phase Task → Bool
  | .refilling _ _ | .undefined => false
  | _ => true

def like (before after : Phase Task) : Bool :=
  after.idle == before.idle && after.searches == before.searches && after.holds == before.holds &&
    after.parkState == before.parkState && !after.blocks

/-- Nothing has to be done to go from one phase to the other. -/
def leads (before after : Phase Task) : Bool :=
  before.like after && (!after.drained || before.drained) && (!after.emptied || before.emptied) &&
    (!after.committed || before.committed) && after.unconditional

theorem Like.of (same : before.like after) : before.Like after := by
  simp only [like, Bool.and_eq_true, beq_iff_eq, Bool.not_eq_true'] at same
  rcases same with ⟨⟨⟨⟨idle, searches⟩, holds⟩, parkState⟩, isOpen⟩
  refine ⟨idle, searches, holds, parkState, ?_, ?_⟩
  all_goals
    rintro rfl
    cases isOpen

theorem sound_of_unconditional {phase : Phase Task} (plain : phase.unconditional) :
    phase.Sound config ring := by
  cases phase
  case refilling | undefined => cases plain
  all_goals exact trivial

end Phase

section

variable {state next : State config Task Foreign} {worker : Fin config.workers}
  {before after : Phase Task}

section

variable (inv : Inv state)

include inv

theorem Inv.sameIdle (was : state.phase worker = before)
    (same : after.idle = before.idle) (index : Nat) : state.idleMask.getLsbD index =
      if index = worker.val then after.idle else state.idleMask.getLsbD index := by
  rw [same, ← was, ← inv.idle worker]
  split
  · rename_i here
    rw [here]
  · rfl

theorem Inv.sameHolds (was : state.phase worker = before)
    (same : after.holds = before.holds) : after.holds ↔ state.driver = some worker := by
  rw [same, ← was]
  exact (inv.fits worker).driver

theorem Inv.samePark (was : state.phase worker = before)
    (same : after.parkState = before.parkState) :
    state.parkState worker = .notified ∨ state.parkState worker = after.parkState := by
  rw [same, ← was]
  exact (inv.fits worker).park

omit inv in
theorem Elsewhere.moves (elsewhere : Elsewhere worker state next)
    (was : state.phase worker = before) (is : next.phase worker = after)
    (lifo : after.drained → next.lifo worker = none)
    (ring : after.emptied → next.ring worker = [])
    (owed : Duty Task) (duty : next.duty (.worker worker) = owed)
    (owes : owed = .none ∨ after.owes ∧ owed.targets = [])
    (committed : after.committed → next.injection ≠ [] → state.injection ≠ [] ∧
      before.committed ∧ (state.parkState worker = .notified → next.parkState worker = .notified))
    (idle : ∀ index, next.idleMask.getLsbD index =
      if index = worker.val then after.idle else state.idleMask.getLsbD index)
    (searching : next.searching + before.searches.toNat =
      state.searching + after.searches.toNat)
    (driver : after.holds ↔ next.driver = some worker)
    (others : ∀ other, other ≠ worker → (next.driver = some other ↔ state.driver = some other))
    (park : next.parkState worker = .notified ∨ next.parkState worker = after.parkState)
    (blocks : after = .turning true ∨ after = .waiting false →
      next.parkState worker ≠ .notified)
    (sound : after.Sound config (next.ring worker)) :
    Moves worker state next := by
  subst was is
  refine ⟨elsewhere, ⟨lifo, ring, ?_, driver, park, sound⟩, ?_, idle, searching, others, committed,
    blocks⟩
  · rw [duty]
    intro nonempty
    rcases owes with none | ⟨owes, -⟩
    · exact absurd none nonempty
    · exact owes
  · rw [duty]
    rcases owes with rfl | ⟨-, targets⟩
    · rfl
    · exact targets

theorem Inv.plain (elsewhere : Elsewhere worker state next)
    (was : state.phase worker = before) (is : next.phase worker = after)
    (like : before.Like after)
    (lifo : after.drained → next.lifo worker = none)
    (ring : after.emptied → next.ring worker = [])
    (owed : Duty Task) (duty : next.duty (.worker worker) = owed)
    (owes : owed = .none ∨ after.owes ∧ owed.targets = [])
    (committed : after.committed → next.injection ≠ [] →
      state.injection ≠ [] ∧ before.committed)
    (sound : after.Sound config (next.ring worker))
    (same : (next.idleMask, next.searching, next.driver, next.parkState) =
      (state.idleMask, state.searching, state.driver, state.parkState)) :
    Moves worker state next := by
  rcases like with ⟨idle, searches, holds, parkState, blocks⟩
  simp only [Prod.mk.injEq] at same
  rcases same with ⟨mask, searching, driver, park⟩
  refine elsewhere.moves was is lifo ring owed duty owes ?_ (mask ▸ inv.sameIdle was idle) ?_
    (driver ▸ inv.sameHolds was holds) ?_ (park ▸ inv.samePark was parkState) ?_
    sound
  · rw [park]
    exact fun now nonempty => ⟨(committed now nonempty).1, (committed now nonempty).2, id⟩
  · rw [searches, searching]
  · intro other _
    rw [driver]
  · rintro (turning | waiting)
    · exact absurd turning blocks.1
    · exact absurd waiting blocks.2

variable (quiet : state.duty (.worker worker) = .none)

include quiet

theorem Inv.goto (was : state.phase worker = before) (like : before.Like after)
    (lifo : after.drained → before.drained) (ring : after.emptied → before.emptied)
    (committed : after.committed → before.committed)
    (sound : after.Sound config (state.ring worker)) :
    Moves worker state (state.goto worker after) := by
  have fits := inv.fits worker
  refine inv.plain (Elsewhere.refl.goto _) was State.phase_goto like
    ?_ ?_ .none quiet (.inl rfl) (fun now nonempty => ⟨nonempty, committed now⟩) sound rfl
  · exact fun now => fits.lifo (was ▸ lifo now)
  · exact fun now => fits.ring (was ▸ ring now)

theorem Inv.goOn (was : state.phase worker = before) (leads : before.leads after) :
    Moves worker state (state.goto worker after) := by
  simp only [Phase.leads, Bool.and_eq_true, Bool.or_eq_true, Bool.not_eq_true'] at leads
  rcases leads with ⟨⟨⟨⟨like, drained⟩, emptied⟩, committed⟩, plain⟩
  refine inv.goto quiet was (.of like) ?_ ?_ ?_ (Phase.sound_of_unconditional plain)
  · exact fun now => drained.resolve_left (by simp [now])
  · exact fun now => emptied.resolve_left (by simp [now])
  · exact fun now => committed.resolve_left (by simp [now])

theorem Inv.takeInjected (was : state.phase worker = before)
    (hit : ∀ task, before.Like (found task))
    (plain : ∀ task, (found task).emptied = false ∧ (found task).committed = false)
    (sound : ∀ task ring, (found task).Sound config ring)
    (drained : ∀ task, (found task).drained → before.drained)
    (miss : state.injection = [] → Moves worker state (state.goto worker missing)) :
    Moves worker state (state.takeInjected worker found missing) := by
  rw [State.takeInjected]
  split
  · rename_i empty
    exact miss empty
  · rename_i task rest injection
    refine inv.plain ((Elsewhere.refl.setInjection _).goto _) was State.phase_goto
      (hit task) ?_ ?_ .none quiet (.inl rfl) ?_ (sound task _) rfl
    · exact fun now => (inv.fits worker).lifo (was ▸ drained task now)
    · exact fun now => absurd now (by simp [plain task])
    · exact fun now => absurd now (by simp [plain task])

theorem Inv.popOwn (was : state.phase worker = before) (hit : ∀ task, before.Like (found task))
    (miss : before.Like missing)
    (plain : ∀ task, (found task).emptied = false ∧ (found task).committed = false ∧
      (found task).drained = false) (sound : ∀ task ring, (found task).Sound config ring)
    (missed : ∀ ring, missing.Sound config ring) (drained : missing.drained → before.drained)
    (isOpen : missing.committed = false) :
    Moves worker state (state.popOwn worker found missing) := by
  rw [State.popOwn]
  split
  · rename_i empty
    refine inv.plain (Elsewhere.refl.goto _) was State.phase_goto miss
      ?_ (fun _ => empty) .none quiet (.inl rfl) ?_ (missed _) rfl
    · exact fun now => (inv.fits worker).lifo (was ▸ drained now)
    · exact fun now => absurd now (by simp [isOpen])
  · rename_i task rest ring
    refine inv.plain ((Elsewhere.refl.setRing _).goto _) was State.phase_goto
      (hit task) ?_ ?_ .none quiet (.inl rfl) ?_ (sound task _) rfl
    all_goals exact fun now => absurd now (by simp [plain task])

end

section

variable (inv : Inv state)

include inv

variable (quiet : state.duty (.worker worker) = .none)

include quiet

theorem Inv.runLifo [DecidableEq Foreign] (was : state.phase worker = .lifo) :
    Moves worker state (state.runLifo worker) := by
  simp only [State.runLifo]
  split
  · rename_i empty
    exact inv.plain ((Elsewhere.refl.setCounters _).goto _) was State.phase_goto (.of rfl)
      (fun _ => empty) nofun .none quiet (.inl rfl) nofun trivial rfl
  · split
    · exact inv.plain (((Elsewhere.refl.setLifo _).setCounters _).goto _) was
        State.phase_goto (.of rfl) nofun nofun .none quiet (.inl rfl) nofun trivial rfl
    · rename_i task _ _
      exact inv.plain ((((Elsewhere.refl.setLifo _).setCounters _).owe _).goto _) was
        State.phase_goto (.of rfl)
        (fun _ => update_self ..) nofun
        (.pushing task true) (update_self ..) (.inr ⟨rfl, rfl⟩) nofun trivial rfl

theorem Inv.takeBatch (was : state.phase worker = .globalLock) :
    Moves worker state (state.takeBatch worker) := by
  simp only [State.takeBatch]
  split
  · exact inv.goOn quiet was rfl
  rename_i task rest injection
  split
  · refine inv.plain ((Elsewhere.refl.setInjection _).goto _) was State.phase_goto (.of rfl)
      nofun nofun .none quiet (.inl rfl) nofun ?_ rfl
    have room := config.want_le_slots (rest.length + 1)
      (localQueueCapacity - (state.ring worker).length)
    rw [Phase.Sound, List.take_eq_nil_iff, List.length_take]
    dsimp only
    omega
  · rename_i more
    refine inv.goto quiet was (.of rfl) nofun nofun nofun ?_
    by_contra several
    exact more (config.want_le_length (Nat.not_lt.mp several) (Nat.succ_pos _))

theorem Inv.sweep {turn : Nat} (was : state.phase worker = .sweeping turn) :
    Moves worker state (state.sweep worker turn) := by
  simp only [State.sweep]
  split
  · exact inv.goOn quiet was rfl
  split
  · exact inv.goOn quiet was rfl
  rename_i apart
  split
  · exact inv.goOn quiet was rfl
  · rename_i task source target stolen
    refine inv.plain (((Elsewhere.refl.steal ?_).setRing _).goto _) was State.phase_goto
      (.of rfl) (fun _ => (inv.fits worker).lifo (was ▸ rfl)) nofun .none quiet (.inl rfl) nofun
      trivial rfl
    simp only [stealInto] at stolen
    split at stolen
    · cases stolen
    · rcases Option.map_eq_some_iff.mp stolen with ⟨_, _, taken⟩
      cases taken
      rw [List.length_drop]
      exact Nat.sub_le _ _

theorem Inv.leaveSearch [DecidableEq Foreign] {task : Option Task}
    (was : state.phase worker = .leaving task) :
    Moves worker state (state.leaveSearch worker task) := by
  have counted : 0 < state.searching := by
    rw [inv.searching, List.countP_pos_iff]
    exact ⟨worker, List.mem_finRange worker, by rw [was]; rfl⟩
  have lowered : state.searching - 1 + true.toNat = state.searching + false.toNat := by
    simp only [Bool.toNat_true, Bool.toNat_false]
    omega
  cases task with
  | some task =>
    exact (((Elsewhere.refl.setSearching _).owe _).goto _).moves was State.phase_goto nofun
      nofun .deciding (update_self ..) (.inr ⟨rfl, rfl⟩) nofun (inv.sameIdle was rfl)
      lowered (inv.sameHolds was rfl) (fun _ _ => .rfl) (inv.samePark was rfl) nofun trivial
  | none =>
    exact ((Elsewhere.refl.setSearching _).goto _).moves was State.phase_goto
      (fun _ => (inv.fits worker).lifo (was ▸ rfl)) nofun .none quiet (.inl rfl) nofun
      (inv.sameIdle was rfl) lowered (inv.sameHolds was rfl) (fun _ _ => .rfl)
      (inv.samePark was rfl) nofun trivial

theorem Inv.enterSearch {current : Nat} (was : state.phase worker = .entering current) :
    Moves worker state
      ({ state with searching := state.searching + 1 }.goto worker (.sweeping 0)) :=
  ((Elsewhere.refl.setSearching _).goto _).moves was State.phase_goto
    (fun _ => (inv.fits worker).lifo (was ▸ rfl)) nofun .none quiet (.inl rfl) nofun
    (inv.sameIdle was rfl) rfl (inv.sameHolds was rfl) (fun _ _ => .rfl) (inv.samePark was rfl)
    nofun trivial

theorem Inv.setIdle {lastSearcher : Bool} (was : state.phase worker = .idling lastSearcher) :
    Moves worker state ({ state with
      idleMask := state.idleMask ||| idleBit worker }.goto worker (.recheckOwn lastSearcher)) := by
  refine ((Elsewhere.refl.setIdleMask _).goto _).moves was State.phase_goto
    (fun _ => (inv.fits worker).lifo (was ▸ rfl)) nofun .none quiet (.inl rfl) nofun ?_ rfl
    (inv.sameHolds was rfl) (fun _ _ => .rfl) (inv.samePark was rfl) nofun trivial
  intro index
  have inside : worker.val < 64 := Nat.lt_of_lt_of_le worker.isLt config.capped
  simp only [getLsbD_setIdle _ inside, Phase.idle]
  grind

theorem Inv.unsetIdle (was : state.phase worker = before) (is : after.idle = false)
    (plain : after.drained = false ∧ after.emptied = false ∧ after.committed = false)
    (searches : after.searches = before.searches) (holds : after.holds = before.holds)
    (parkState : after.parkState = before.parkState)
    (blocks : after ≠ .turning true ∧ after ≠ .waiting false)
    (sound : ∀ ring, after.Sound config ring) :
    Moves worker state ({ state with
      idleMask := state.idleMask &&& ~~~ idleBit worker }.goto worker after) := by
  rcases plain with ⟨drained, emptied, committed⟩
  refine ((Elsewhere.refl.setIdleMask _).goto _).moves was State.phase_goto
    (fun now => absurd now (by simp [drained])) (fun now => absurd now (by simp [emptied])) .none
    quiet (.inl rfl) (fun now => absurd now (by simp [committed])) ?_ (by rw [searches])
    (inv.sameHolds was holds) (fun _ _ => .rfl) (inv.samePark was parkState) ?_ (sound _)
  · intro index
    simp only [getLsbD_clearIdle, is]
    grind
  · rintro (turning | waiting)
    · exact absurd turning blocks.1
    · exact absurd waiting blocks.2

theorem Inv.recheck {lastSearcher : Bool}
    (was : state.phase worker = .recheckInjection lastSearcher) :
    Moves worker state (state.recheck worker lastSearcher) := by
  have fits := inv.fits worker
  simp only [State.recheck]
  split
  · exact inv.unsetIdle quiet was rfl ⟨rfl, rfl, rfl⟩ rfl rfl rfl (by simp) fun _ => trivial
  · refine inv.takeInjected quiet was (fun _ => .of rfl) (fun _ => ⟨rfl, rfl⟩)
      (fun _ _ => trivial) nofun ?_
    intro empty
    have parks : ∀ {after}, Phase.Like (.recheckInjection lastSearcher) after →
        after.Sound config (state.ring worker) →
        Moves worker state (state.goto worker after) := fun like sound =>
      inv.plain (Elsewhere.refl.goto _) was State.phase_goto like
        (fun _ => fits.lifo (was ▸ rfl)) (fun _ => fits.ring (was ▸ rfl)) .none quiet (.inl rfl)
        (fun _ nonempty => absurd empty nonempty) sound rfl
    split
    · exact parks (.of rfl) trivial
    · exact parks (.of rfl) trivial

theorem Inv.look (was : state.phase worker = .looking peer) :
    Moves worker state (state.look worker peer) := by
  simp only [State.look]
  split
  · split
    · exact inv.goOn quiet was rfl
    · exact inv.goOn quiet was rfl
  · exact inv.goOn quiet was rfl

theorem Inv.takeDriver (was : state.phase worker = .parking) (free : state.driver = none) :
    Moves worker state ({ state with driver := some worker }.goto worker .beforePoll) := by
  have fits := inv.fits worker
  exact ((Elsewhere.refl.setDriver _).goto _).moves was State.phase_goto
    (fun _ => fits.lifo (was ▸ rfl)) (fun _ => fits.ring (was ▸ rfl)) .none quiet (.inl rfl)
    (fun _ nonempty => ⟨nonempty, rfl, id⟩) (inv.sameIdle was rfl) rfl ⟨fun _ => rfl, fun _ => rfl⟩
    (fun other apart => by simp [free, apart.symm]) (inv.samePark was rfl) nofun trivial

theorem Inv.beforePoll (was : state.phase worker = .beforePoll) :
    Moves worker state (if state.parkState worker = .notified then
      { state with driver := none }.goto worker (.settling (some 0))
      else (state.setPark worker .parkedDriver).goto worker (.turning true)) := by
  have fits := inv.fits worker
  have held : state.driver = some worker := fits.driver.mp (was ▸ rfl)
  split
  · rename_i notified
    exact ((Elsewhere.refl.setDriver _).goto _).moves was State.phase_goto nofun nofun .none quiet
      (.inl rfl) nofun (inv.sameIdle was rfl) rfl ⟨nofun, nofun⟩
      (fun other apart => by simp [held, apart.symm]) (.inl notified) nofun trivial
  · rename_i unnotified
    exact ((Elsewhere.refl.setPark _).goto _).moves was State.phase_goto
      (fun _ => fits.lifo (was ▸ rfl)) (fun _ => fits.ring (was ▸ rfl)) .none quiet (.inl rfl)
      (fun _ nonempty => ⟨nonempty, rfl, fun notified => absurd notified unnotified⟩)
      (inv.sameIdle was rfl) rfl (inv.sameHolds was rfl) (fun _ _ => .rfl)
      (.inr (update_self ..)) (fun _ => by simp) trivial

theorem Inv.settle {dispatched : Option Nat} (was : state.phase worker = .settling dispatched) :
    Moves worker state (state.settle worker dispatched) := by
  have fits := inv.fits worker
  simp only [State.settle]
  split
  · rename_i unnotified
    rcases unnotified with ⟨rfl, unnotified⟩
    exact ((Elsewhere.refl.setPark _).goto _).moves was State.phase_goto
      (fun _ => fits.lifo (was ▸ rfl)) (fun _ => fits.ring (was ▸ rfl)) .none quiet (.inl rfl)
      (fun _ nonempty => ⟨nonempty, rfl, fun notified => absurd notified unnotified⟩)
      (inv.sameIdle was rfl) rfl (inv.sameHolds was rfl) (fun _ _ => .rfl)
      (.inr (update_self ..)) (fun _ => by simp) trivial
  · exact ((Elsewhere.refl.setPark _).goto _).moves was State.phase_goto nofun nofun .none quiet
      (.inl rfl) nofun (inv.sameIdle was rfl) rfl (inv.sameHolds was rfl) (fun _ _ => .rfl)
      (.inr (update_self ..)) nofun trivial

theorem Inv.tryTurn (was : state.phase worker = .tryTurn) (free : state.driver = none) :
    Moves worker state ({ state with driver := some worker }.goto worker (.turning false)) :=
  ((Elsewhere.refl.setDriver _).goto _).moves was State.phase_goto nofun nofun .none quiet
    (.inl rfl) nofun (inv.sameIdle was rfl) rfl ⟨fun _ => rfl, fun _ => rfl⟩
    (fun other apart => by simp [free, apart.symm]) (inv.samePark was rfl) (by simp) trivial

theorem Inv.clearIdle (was : state.phase worker = .clearing resume) :
    Moves worker state (state.clearIdle worker resume) := by
  cases resume <;>
    exact inv.unsetIdle quiet was rfl ⟨rfl, rfl, rfl⟩ rfl rfl rfl (by simp) fun _ => trivial

theorem Inv.afterTurn [DecidableEq Foreign]
    (was : state.phase worker = .afterTurn dispatched parked) :
    Moves worker state (state.afterTurn worker dispatched parked) := by
  by_cases many : 0 < dispatched ∧ 1 < state.localLen worker
  · rw [State.afterTurn, if_pos many]
    cases parked
    all_goals
      exact inv.plain ((Elsewhere.refl.owe _).goto _) was State.phase_goto (.of rfl) nofun nofun
        .deciding (update_self ..) (.inr ⟨rfl, rfl⟩) nofun trivial rfl
  · rw [State.afterTurn, if_neg many]
    cases parked
    all_goals exact inv.goOn quiet was rfl

theorem Inv.advance [DecidableEq Foreign] (stepped : state.advance worker = some next) :
    Moves worker state next := by
  have fits := inv.fits worker
  simp only [State.advance] at stepped
  split at stepped
  all_goals rename_i was
  all_goals cases stepped
  case h_1 => exact inv.runLifo quiet was
  case h_2 =>
    simp only [State.checkInterval]
    split
    all_goals
      exact inv.plain ((Elsewhere.refl.setCounters _).goto _) was State.phase_goto (.of rfl)
        (fun _ => fits.lifo (was ▸ rfl)) nofun .none quiet (.inl rfl) nofun trivial rfl
  case h_3 =>
    exact inv.takeInjected quiet was (fun _ => .of rfl) (fun _ => ⟨rfl, rfl⟩)
      (fun _ _ => trivial) nofun fun _ => inv.goOn quiet was rfl
  case h_4 | h_16 =>
    exact inv.popOwn quiet was (fun _ => .of rfl) (.of rfl) (fun _ => ⟨rfl, rfl, rfl⟩)
      (fun _ _ => trivial) (fun _ => trivial) (fun _ => rfl) rfl
  case h_5 | h_9 | h_12 | h_24 => split <;> exact inv.goOn quiet was rfl
  case h_6 => exact inv.takeBatch quiet was
  case h_7 | h_27 => exact inv.goOn quiet was rfl
  case h_8 task next rest =>
    have room : (state.ring worker).length + (rest.length + 1) ≤ localQueueCapacity := by
      have sound := fits.sound
      rw [was] at sound
      exact sound.resolve_left (List.cons_ne_nil _ _)
    rw [if_pos (by omega)]
    refine inv.plain ((Elsewhere.refl.setRing _).goto _) was State.phase_goto (.of rfl) nofun nofun
      .none quiet (.inl rfl) nofun (.inr ?_) rfl
    simp only [update_self, List.length_append, List.length_singleton]
    omega
  case h_10 =>
    split
    · exact inv.enterSearch quiet was
    · exact inv.goOn quiet was rfl
  case h_11 => exact inv.sweep quiet was
  case h_13 =>
    exact inv.takeInjected quiet was (fun _ => .of rfl) (fun _ => ⟨rfl, rfl⟩) (fun _ _ => trivial)
      (fun _ _ => rfl)
      fun _ => inv.goOn quiet was rfl
  case h_14 => exact inv.leaveSearch quiet was
  case h_15 => exact inv.setIdle quiet was
  case h_17 => exact inv.recheck quiet was
  case h_18 => exact inv.look quiet was
  case h_19 =>
    split
    · rename_i free
      exact inv.takeDriver quiet was free
    · exact inv.goOn quiet was rfl
  case h_20 => exact inv.beforePoll quiet was
  case h_21 => exact inv.settle quiet was
  case h_22 => exact inv.clearIdle quiet was
  case h_23 => exact inv.afterTurn quiet was
  case h_25 =>
    simp only [State.checkTurn]
    split
    all_goals
      exact inv.plain ((Elsewhere.refl.setCounters _).goto _) was State.phase_goto (.of rfl) nofun
        nofun .none quiet (.inl rfl) nofun trivial rfl
  case h_26 =>
    split
    · rename_i free
      exact inv.tryTurn quiet was free
    · exact inv.goOn quiet was rfl

end

end

end CoroRuntime.Executors.WorkStealing
