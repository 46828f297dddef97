import CoroRuntime.Parallel.Parallel

/-! # What `parallel()` returns -/

namespace CoroRuntime.Parallel

open Foundation JoinSet

variable {Exception : Type}

/-! ## What it should return -/

namespace ParallelFuture

def outcomeOf (future : ParallelFuture Exception) (part : Nat) :
    Option (Outcome Unit (PartError Exception)) :=
  (future.set.node part).bind fun node =>
    match node.progress with
    | .notified outcome => some outcome
    | _ => none

def failures (future : ParallelFuture Exception) : List (Failure (PartError Exception)) :=
  future.set.recorded.filterMap fun part => (future.outcomeOf part).bind Outcome.failure

end ParallelFuture

def AllAsked (set : PartSet Exception) : Prop :=
  ∀ part ∈ set.pendingHandles, ∀ node, set.node part = some node → node.cancelRequested = true

def Collected (set : PartSet Exception) : Prop :=
  ∃ entry ∈ set.handedOut, entry.2.2.outcome.hasValue = false

def Sweeping (set : PartSet Exception) : Prop :=
  ∃ operation anyPending failed rest, set.consumer () = some operation ∧
    operation.phase = .sweeping anyPending failed rest

def Result.ofFailure : Option (Failure (PartError Exception)) → Result Exception
  | some failure => .error failure
  | none => .ready

structure Returned (k : Nat) (future : ParallelFuture Exception) (result : Result Exception) :
    Prop where
  terminated : ∀ part < future.started, future.outcomeOf part ≠ none
  ready : result = .ready ↔ future.started = k ∧
    (∀ part < k, future.outcomeOf part = some (.value ())) ∧ future.cancelledInTime = false
  dropped : result = .dropped ↔ future.cancelledInTime = true
  spawnFailed : future.cancelledInTime = false → ∀ exception,
    future.spawnError = some exception → result = .error (.exception exception)
  failed : future.cancelledInTime = false → future.spawnError = none →
    result = .ofFailure (reportedFailure (some parallelErrorRanksLast) future.failures)

structure Outcomes (k : Nat) (future : ParallelFuture Exception) : Prop where
  intact : future.fault = false
  returned : ∀ result, future.phase = .finished result → Returned k future result
  startCancels : future.spawnError ≠ none → AllAsked future.set
  failureCancels : Collected future.set → ¬Sweeping future.set → AllAsked future.set

/-! ## The set of the parts -/

section Set

variable {set next : PartSet Exception}
  {move : SetMove Exception}

def isSpawn : SetMove Exception → Bool
  | .spawn .. => true
  | _ => false

/-- A node later on: no request to cancel and no outcome is taken back. -/
structure Later (node later : TaskNode Unit Unit (PartError Exception)) : Prop where
  asked : node.cancelRequested = true → later.cancelRequested = true
  notified : ∀ outcome, node.progress = .notified outcome → later.progress = .notified outcome

theorem Later.refl (node : TaskNode Unit Unit (PartError Exception)) : Later node node :=
  ⟨fun asked => asked, fun _ notified => notified⟩

structure Keeps (set next : PartSet Exception) : Prop where
  pending : ∀ part ∈ next.pendingHandles, part ∈ set.pendingHandles
  nodes : ∀ part, Option.Rel Later (set.node part) (next.node part)
  recorded : (∀ part node, set.node part = some node →
    ∃ outcome, node.progress = .notified outcome) → next.recorded = set.recorded

theorem later_self (content : Option (TaskNode Unit Unit (PartError Exception))) :
    Option.Rel Later content content := by
  cases content with
  | none => exact .none
  | some node => exact .some (.refl node)

theorem later_update (found : set.node part = some node) (goesOn : Later node later) (other : Nat) :
    Option.Rel Later (set.node other) (Function.update set.node part (some later) other) := by
  by_cases same : other = part
  · subst same
    rw [Function.update_self, found]
    exact .some goesOn
  · rw [Function.update_of_ne same]
    exact later_self _

theorem later_requestCancel (node : TaskNode Unit Unit (PartError Exception)) :
    Later node node.requestCancel := by
  unfold TaskNode.requestCancel
  split
  · exact ⟨fun _ => rfl, fun _ notified => notified⟩
  · exact .refl node

theorem later_cancelAll (part : Nat) :
    Option.Rel Later (set.node part) (set.cancelAll.node part) := by
  simp only [JoinSetState.cancelAll]
  split
  · cases set.node part with
    | none => exact .none
    | some node => exact .some (later_requestCancel node)
  · exact later_self _

theorem Keeps.of_nodes (pending : next.pendingHandles = set.pendingHandles)
    (recorded : next.recorded = set.recorded)
    (nodes : ∀ part, Option.Rel Later (set.node part) (next.node part)) : Keeps set next :=
  ⟨fun _ member => pending ▸ member, nodes, fun _ => recorded⟩

theorem keeps_cancelAllOnce (operation : Drain Exception)
    (phase : JoinSet.Phase Nat Unit Unit (PartError Exception)) :
    Keeps set (set.cancelAllOnce () operation phase) := by
  unfold JoinSetState.cancelAllOnce
  split
  · exact .of_nodes rfl rfl fun _ => later_self _
  · exact .of_nodes rfl rfl later_cancelAll

theorem keeps_takeFrom (received : JoinResult Unit Unit (PartError Exception) →
      Drain Exception) : Keeps set (set.takeFrom () part received) := by
  unfold JoinSetState.takeFrom
  split
  · rename_i result node taken
    rcases Option.bind_eq_some_iff.mp taken with ⟨before, found, took⟩
    unfold TaskNode.takeResult at took
    split at took <;> cases took
    exact .of_nodes rfl rfl (later_update found ⟨fun asked => asked, fun _ notified => notified⟩)
  · exact .of_nodes rfl rfl fun _ => later_self _

theorem keeps_of_step (spawnless : isSpawn move = false) (step : set.step move = some next) :
    Keeps set next := by
  cases effect step with
  | spawned => cases spawnless
  | cancelledTask part node found =>
    exact .of_nodes rfl rfl (later_update found ⟨fun _ => rfl, fun _ notified => notified⟩)
  | finished part outcome node found running =>
    refine .of_nodes rfl rfl (later_update found ⟨?_, ?_⟩)
    · cases outcome <;> exact fun asked => asked
    · simp [running]
  | completed part outcome node found finished =>
    have goesOn : ∀ later : TaskNode Unit Unit (PartError Exception),
        later.cancelRequested = node.cancelRequested → Later node later := by
      intro later same
      exact ⟨fun asked => same.trans asked, by simp [finished]⟩
    unfold JoinSetState.onTaskComplete
    split
    · refine ⟨fun other member => List.mem_of_mem_erase member,
        later_update found (goesOn _ rfl), fun all => ?_⟩
      rcases all part node found with ⟨other, notified⟩
      rw [finished] at notified
      cases notified
    · exact .of_nodes rfl rfl (later_update found (goesOn _ rfl))
  | woken | requested | destroyed | swept => exact .of_nodes rfl rfl fun _ => later_self _
  | cancelledAll => exact .of_nodes rfl rfl later_cancelAll
  | cancelled _ operation => exact keeps_cancelAllOnce _ _
  | polled _ operation =>
    unfold JoinSetState.beginPoll
    simp only
    split
    · exact keeps_cancelAllOnce _ _
    · exact .of_nodes rfl rfl fun _ => later_self _
  | polledNext =>
    unfold JoinSetState.pollNext
    split
    · exact .of_nodes rfl rfl fun _ => later_self _
    · split <;> exact .of_nodes rfl rfl fun _ => later_self _
  | tookNext => exact keeps_takeFrom _
  | took => exact keeps_takeFrom _
  | settled =>
    unfold JoinSetState.settle
    simp only
    split
    · exact keeps_cancelAllOnce _ _
    · exact .of_nodes rfl rfl fun _ => later_self _
  | checked =>
    unfold JoinSetState.check
    split <;> exact .of_nodes rfl rfl fun _ => later_self _

abbrev SetReached (set : PartSet Exception) : Prop :=
  (joinSetMachine Nat Unit Unit Unit (PartError Exception)).Reaches anyMove set

theorem SetReached.step (reached : SetReached set) (step : set.step move = some next) :
    SetReached next :=
  reached.next trivial step

theorem AllAsked.keeps (asked : AllAsked set) (keeps : Keeps set next) : AllAsked next := by
  intro part member node found
  have before := asked part (keeps.pending part member)
  have goesOn := keeps.nodes part
  rw [found] at goesOn
  generalize set.node part = earlier at before goesOn
  cases goesOn with
  | some later => exact later.asked (before _ rfl)

theorem allAsked_cancelAll (conserved : Conserved set) : AllAsked set.cancelAll := by
  intro part member node found
  change part ∈ set.pendingHandles at member
  simp only [JoinSetState.cancelAll, if_pos member, Option.map_eq_some_iff] at found
  rcases found with ⟨before, found, rfl⟩
  have waiting := conserved.waiting part member before found
  simp [TaskNode.requestCancel, waiting.task]

structure SameDrain (set next : PartSet Exception) : Prop where
  handed : next.handedOut = set.handedOut
  absent : set.consumer () = none → next.consumer () = none
  operation : ∀ operation, set.consumer () = some operation → ∃ woken,
    next.consumer () = some { operation with woken }

theorem SameDrain.of_eq (handed : next.handedOut = set.handedOut)
    (consumer : next.consumer = set.consumer) : SameDrain set next :=
  ⟨handed, fun absent => consumer ▸ absent, fun operation known =>
    ⟨operation.woken, consumer ▸ known⟩⟩

def ofPart : SetMove Exception → Bool
  | .finish .. | .complete _ | .cancelTask _ | .wake _ => true
  | _ => false

theorem sameDrain_of_step (part : ofPart move = true) (step : set.step move = some next) :
    SameDrain set next := by
  cases effect step with
  | cancelledTask | finished => exact .of_eq rfl rfl
  | completed =>
    unfold JoinSetState.onTaskComplete
    split <;> exact .of_eq rfl rfl
  | woken waker =>
    refine ⟨rfl, fun absent => ?_, fun operation known => ⟨true, ?_⟩⟩
    · simp [JoinSetState.awaken, absent]
    · simp [JoinSetState.awaken, known]
  | spawned | cancelledAll | requested | cancelled | destroyed | polled | polledNext | swept
  | tookNext | took | settled | checked => cases part

end Set

/-! ## Invariants -/

structure Draining (set : PartSet Exception) (cancelledInTime : Bool)
    (operation : Drain Exception) : Prop where
  known : set.consumer () = some operation
  request : operation.request = ParallelFuture.drain
  dropped : operation.dropped = cancelledInTime
  cancelled : operation.cancelled = true → AllAsked set
  collected : Collected set → AllAsked set ∨
    ∃ anyPending rest, operation.phase = .sweeping anyPending true rest

def AtPhase (k : Nat) (future : ParallelFuture Exception) : Phase Exception → Prop
  | .unpolled => future.set.consumer () = none ∧ future.started = 0 ∧
      future.spawnError = none ∧ future.cancelRequested = future.cancelledInTime
  | .starting part => part = future.started ∧ future.spawnError = none ∧
      future.set.handedOut = [] ∧ ∃ operation,
        Draining future.set future.cancelledInTime operation ∧ operation.phase = .created ∧
        operation.cancelled = false
  | .draining => (future.spawnError = none → future.started = k) ∧
      ∃ operation, Draining future.set future.cancelledInTime operation
  | .finished result => Returned k future result

structure Inv (k : Nat) (future : ParallelFuture Exception) : Prop where
  intact : future.fault = false
  reached : SetReached future.set
  spawned : ∀ part, (future.set.node part).isSome = true ↔ part < future.started
  bounded : future.started ≤ k ∧ (future.spawnError ≠ none → future.started < k)
  asked : future.spawnError ≠ none → AllAsked future.set
  phase : AtPhase k future future.phase

section Moves

variable {k : Nat} {future next : ParallelFuture Exception}

theorem Inv.at (inv : Inv k future) {phase : Phase Exception} (is : future.phase = phase) :
    AtPhase k future phase :=
  is ▸ inv.phase

theorem Keeps.isSome {set next : PartSet Exception} (keeps : Keeps set next) (part : Nat) :
    (next.node part).isSome = (set.node part).isSome := by
  have goesOn := keeps.nodes part
  generalize set.node part = before at goesOn
  generalize next.node part = after at goesOn
  cases goesOn <;> rfl

theorem Inv.onSet (inv : Inv k future) {set : PartSet Exception} (spawnless : isSpawn move = false)
    (step : future.set.step move = some set)
    (same : (after.set, after.fault, after.started, after.spawnError) =
      (set, future.fault, future.started, future.spawnError))
    (phase : AtPhase k after after.phase) : Inv k after := by
  simp only [Prod.mk.injEq] at same
  rcases same with ⟨rfl, fault, started, spawnError⟩
  have keeps := keeps_of_step spawnless step
  constructor
  case intact => exact fault.trans inv.intact
  case reached => exact SetReached.step inv.reached step
  case spawned =>
    intro part
    rw [keeps.isSome, started]
    exact inv.spawned part
  case bounded =>
    rw [started, spawnError]
    exact inv.bounded
  case asked =>
    rw [spawnError]
    exact fun failed => (inv.asked failed).keeps keeps
  case phase => exact phase

/-! ### Moves of the parts -/

theorem Draining.samePart {set : PartSet Exception}
    (draining : Draining set cancelledInTime operation) (keeps : Keeps set after)
    (same : SameDrain set after) :
    ∃ woken, Draining after cancelledInTime { operation with woken } := by
  rcases same.operation operation draining.known with ⟨woken, known⟩
  refine ⟨woken, known, draining.request, draining.dropped,
    fun cancelled => (draining.cancelled cancelled).keeps keeps, fun collected => ?_⟩
  simp only [Collected, same.handed] at collected
  exact (draining.collected collected).imp_left (·.keeps keeps)

theorem Inv.notified (inv : Inv k future)
    (terminated : ∀ part < future.started, future.outcomeOf part ≠ none)
    (found : future.set.node part = some node) : ∃ outcome, node.progress = .notified outcome := by
  have ended := terminated part ((inv.spawned part).mp (by simp [found]))
  simp only [ParallelFuture.outcomeOf, found, Option.bind_some] at ended
  split at ended
  · exact ⟨_, ‹_›⟩
  · exact absurd rfl ended

theorem Returned.keeps (returned : Returned k future result) (inv : Inv k future)
    {set : PartSet Exception} (keeps : Keeps future.set set)
    (same : (after.set, after.started, after.spawnError, after.cancelledInTime) =
      (set, future.started, future.spawnError, future.cancelledInTime)) :
    Returned k after result := by
  simp only [Prod.mk.injEq] at same
  rcases same with ⟨rfl, started, spawnError, cancelledInTime⟩
  have outcomes : after.outcomeOf = future.outcomeOf := by
    funext part
    have notified : ∀ node, future.set.node part = some node →
        ∃ outcome, node.progress = .notified outcome :=
      fun _ => inv.notified returned.terminated
    have goesOn := keeps.nodes part
    unfold ParallelFuture.outcomeOf
    generalize future.set.node part = before at goesOn notified
    generalize after.set.node part = later at goesOn
    cases goesOn with
    | none => rfl
    | some goesOn =>
      rcases notified _ rfl with ⟨outcome, is⟩
      simp [is, goesOn.notified outcome is]
  have failures : after.failures = future.failures := by
    have recorded := keeps.recorded fun _ _ => inv.notified returned.terminated
    simp only [ParallelFuture.failures, recorded, outcomes]
  constructor
  · rw [started, outcomes]
    exact returned.terminated
  · rw [started, outcomes, cancelledInTime]
    exact returned.ready
  · rw [cancelledInTime]
    exact returned.dropped
  · rw [cancelledInTime, spawnError]
    exact returned.spawnFailed
  · rw [cancelledInTime, spawnError, failures]
    exact returned.failed

theorem Inv.partMove (inv : Inv k future) (part : ofPart move = true)
    (step : future.onSet move = some next) : Inv k next := by
  rcases Option.map_eq_some_iff.mp step with ⟨set, stepped, rfl⟩
  have spawnless : isSpawn move = false := by
    cases move <;> simp_all [ofPart, isSpawn]
  have keeps := keeps_of_step spawnless stepped
  have same := sameDrain_of_step part stepped
  refine inv.onSet spawnless stepped rfl ?_
  have phase := inv.phase
  change AtPhase k _ future.phase
  cases is : future.phase with rw [is] at phase
  | unpolled => exact ⟨same.absent phase.1, phase.2⟩
  | starting part =>
    rcases phase with ⟨here, unfailed, fresh, operation, draining, created, uncancelled⟩
    rcases draining.samePart keeps same with ⟨woken, draining⟩
    exact ⟨here, unfailed, same.handed.trans fresh, _, draining, created, uncancelled⟩
  | draining =>
    rcases phase with ⟨all, operation, draining⟩
    rcases draining.samePart keeps same with ⟨woken, draining⟩
    exact ⟨all, _, draining⟩
  | finished result => exact Returned.keeps phase inv keeps rfl

/-! ### Moves of the drain -/

section Drain

variable {set after : PartSet Exception} {cancelledInTime : Bool}
  {operation : Drain Exception}

theorem consumer_setConsumer (set : PartSet Exception) (consumer : Unit)
    (operation : Drain Exception) :
    (set.setConsumer consumer operation).consumer () = some operation := by
  simp [JoinSetState.setConsumer]

variable (draining : Draining set cancelledInTime operation)

include draining

theorem Draining.goOn (known : after.consumer () = some later)
    (parts : (after.pendingHandles, after.node, after.handedOut) =
      (set.pendingHandles, set.node, set.handedOut))
    (same : (later.request, later.dropped, later.cancelled) =
      (operation.request, operation.dropped, operation.cancelled))
    (phase : ∀ anyPending rest, operation.phase = .sweeping anyPending true rest →
      ∃ anyPending rest, later.phase = .sweeping anyPending true rest) :
    Draining after cancelledInTime later := by
  simp only [Prod.mk.injEq] at parts same
  have asked : AllAsked set → AllAsked after := by
    simp only [AllAsked, parts.1, parts.2.1]
    exact id
  refine ⟨known, same.1.trans draining.request, same.2.1.trans draining.dropped, ?_, ?_⟩
  · rw [same.2.2]
    exact fun cancelled => asked (draining.cancelled cancelled)
  · intro collected
    simp only [Collected, parts.2.2] at collected
    rcases draining.collected collected with all | ⟨anyPending, rest, sweeping⟩
    · exact .inl (asked all)
    · exact .inr (phase anyPending rest sweeping)

theorem Draining.poll (step : set.step (.poll ()) = some after) :
    ∃ later, Draining after cancelledInTime later := by
  cases effect step with
  | polled _ before known outside =>
    cases draining.known.symm.trans known
    have plain : operation.request.cancelsAtStart = false := by
      rw [draining.request]
      rfl
    simp only [JoinSetState.beginPoll, plain, Bool.false_eq_true, if_false]
    refine ⟨_, draining.goOn (consumer_setConsumer ..) rfl rfl fun anyPending rest sweeping => ?_⟩
    simp [Operation.pollable, sweeping] at outside

theorem Draining.sweep (step : set.step (.sweep ()) = some after) :
    ∃ later, Draining after cancelledInTime later := by
  have bulk : operation.request.isNext = false := by
    rw [draining.request]
    rfl
  cases effect step with
  | polledNext _ before known begun stream =>
    cases draining.known.symm.trans known
    simp [bulk] at stream
  | swept _ before known begun _ =>
    cases draining.known.symm.trans known
    refine ⟨{ operation with
        phase := .sweeping (!set.pendingHandles.isEmpty) false set.idleHandles },
      draining.goOn (consumer_setConsumer set () _) rfl rfl fun anyPending rest sweeping => ?_⟩
    simp [begun] at sweeping

theorem Draining.take (reached : SetReached set)
    (step : set.step (.take ()) = some after) :
    ∃ later, Draining after cancelledInTime later := by
  have bulk : operation.request.isNext = false := by
    rw [draining.request]
    rfl
  have intact := (conserved_of_reaches (SetReached.step reached step)).intact
  have keeps := keeps_of_step rfl step
  cases effect step with
  | tookNext _ before part known taking =>
    cases draining.known.symm.trans known
    have suits := ((gathered_of_reaches reached).operation () operation known).suits
    simp [taking, Phase.suits, bulk] at suits
  | took _ before part anyPending failed rest known sweeping =>
    cases draining.known.symm.trans known
    unfold JoinSetState.takeFrom at intact keeps ⊢
    split at intact
    · rename_i result node taken
      simp only [taken] at keeps ⊢
      refine ⟨JoinSetState.receive operation result anyPending failed rest,
        consumer_setConsumer (set.setNode part node) () _, draining.request, draining.dropped,
        fun cancelled => (draining.cancelled cancelled).keeps keeps, ?_⟩
      rintro ⟨entry, member, failure⟩
      rcases List.mem_append.mp member with old | new
      · refine (draining.collected ⟨entry, old, failure⟩).imp (·.keeps keeps) ?_
        rintro ⟨_, _, is⟩
        rw [sweeping] at is
        cases is
        exact ⟨anyPending, rest, by simp [JoinSetState.receive]⟩
      · rw [List.mem_singleton] at new
        subst new
        exact .inr ⟨anyPending, rest, by simp [JoinSetState.receive, failure]⟩
    · cases intact

theorem Draining.cancelAllOnce (conserved : Conserved set) {dropped : Bool}
    (later : Drain Exception)
    (same : (later.request, later.dropped, later.cancelled) =
      (operation.request, dropped, operation.cancelled))
    (phase : JoinSet.Phase Nat Unit Unit (PartError Exception)) :
    ∃ last, Draining (set.cancelAllOnce () later phase) dropped last := by
  simp only [Prod.mk.injEq] at same
  unfold JoinSetState.cancelAllOnce
  split
  · rename_i cancelled
    have asked := draining.cancelled (same.2.2 ▸ cancelled)
    exact ⟨_, consumer_setConsumer .., same.1.trans draining.request, same.2.1,
      fun _ => asked, fun _ => .inl asked⟩
  · have asked := allAsked_cancelAll conserved
    exact ⟨_, consumer_setConsumer .., same.1.trans draining.request, same.2.1,
      fun _ => asked, fun _ => .inl asked⟩

theorem Draining.settle (conserved : Conserved set) (step : set.step (.settle ()) = some after) :
    ∃ later, Draining after cancelledInTime later := by
  cases effect step with
  | settled _ before anyPending failed known sweeping =>
    cases draining.known.symm.trans known
    have onError : operation.request.onError = .cancel := by
      rw [draining.request]
      rfl
    unfold JoinSetState.settle
    simp only [onError, decide_true, Bool.and_true]
    split
    · have same : (operation.request, operation.dropped, operation.cancelled) =
          (operation.request, cancelledInTime, operation.cancelled) := by
        rw [draining.dropped]
      exact draining.cancelAllOnce conserved operation same _
    · refine ⟨_, draining.goOn (consumer_setConsumer ..) rfl rfl fun _ _ is => ?_⟩
      rw [sweeping] at is
      simp_all

theorem Draining.check (step : set.step (.check ()) = some after) :
    ∃ later, Draining after cancelledInTime later ∧ (later.phase = .pending ∨
      later.phase = .ready (if later.dropped then .dropped else later.collector.finish) ∧
        after.pendingHandles = [] ∧ after.idleHandles = []) := by
  cases effect step with
  | checked _ before known checking =>
    cases draining.known.symm.trans known
    unfold JoinSetState.check
    split
    · refine ⟨{ operation with phase := .pending },
        draining.goOn (consumer_setConsumer set () _) rfl rfl fun _ _ sweeping => ?_, .inl rfl⟩
      simp [checking] at sweeping
    · rename_i empty
      simp only [not_or, not_not] at empty
      refine ⟨_, draining.goOn (consumer_setConsumer ..) rfl rfl fun _ _ sweeping => ?_,
        .inr ⟨rfl, empty⟩⟩
      simp [checking] at sweeping

end Drain

section

variable (inv : Inv k future)

include inv

theorem Inv.drainOn (draining : future.phase = .draining) {set : PartSet Exception}
    (spawnless : isSpawn move = false) (step : future.set.step move = some set)
    (same : (after.set, after.fault, after.started, after.spawnError, after.phase) =
      (set, future.fault, future.started, future.spawnError, .draining))
    (drains : ∃ later, Draining set after.cancelledInTime later) : Inv k after := by
  simp only [Prod.mk.injEq] at same
  rcases same with ⟨rfl, fault, started, spawnError, phase⟩
  refine inv.onSet spawnless step (by simp [fault, started, spawnError]) ?_
  rw [phase]
  exact ⟨by rw [started, spawnError]; exact (inv.at draining).1, drains⟩

theorem Inv.pollDrain (draining : future.phase = .draining)
    (step : future.onSet (.poll ()) = some next) : Inv k next := by
  rcases Option.map_eq_some_iff.mp step with ⟨set, stepped, rfl⟩
  rcases inv.at draining with ⟨_, operation, drains⟩
  exact inv.drainOn draining rfl stepped (by rw [← draining]) (drains.poll stepped)

/-! ### The first poll -/

theorem Inv.handedOut_nil (none : future.started = 0) : future.set.handedOut = [] := by
  rw [List.eq_nil_iff_forall_not_mem]
  rintro ⟨consumer, part, result⟩ member
  rcases (conserved_of_reaches inv.reached).handed consumer part result member with
    ⟨node, found, _⟩
  have below := (inv.spawned part).mp (by simp [found])
  omega

theorem Inv.firstPoll (unpolled : future.phase = .unpolled) : Inv k future.firstPoll := by
  rcases inv.at unpolled with ⟨absent, none, unfailed, requested⟩
  unfold ParallelFuture.firstPoll
  split
  · rename_i cancelled
    have inTime : future.cancelledInTime = true := requested.symm.trans cancelled
    refine ⟨inv.intact, inv.reached, inv.spawned, inv.bounded, inv.asked, ?_⟩
    constructor <;> simp [none, inTime]
  · rename_i running
    have step : future.set.step (.request () ParallelFuture.drain) =
        some (future.set.setConsumer () ParallelFuture.drain.operation) := by
      simp [JoinSetState.step, absent]
    refine inv.onSet rfl step rfl ⟨none.symm, unfailed, inv.handedOut_nil none, _,
      ⟨consumer_setConsumer .., rfl, ?_, Bool.noConfusion, ?_⟩, rfl, rfl⟩
    · exact (Bool.eq_false_iff.mpr running).symm.trans requested
    · rintro ⟨entry, member, _⟩
      change entry ∈ future.set.handedOut at member
      simp [inv.handedOut_nil none] at member

theorem Inv.spawnPart (starting : future.phase = .starting part) (below : part < k)
    (step : { future with phase := .starting (part + 1), started := part + 1 }.onSet
      (.spawn part ()) = some next) : Inv k next := by
  rcases Option.map_eq_some_iff.mp step with ⟨set, stepped, rfl⟩
  rcases inv.at starting with ⟨rfl, unfailed, fresh, operation, draining, created, uncancelled⟩
  have reached := SetReached.step inv.reached stepped
  cases effect stepped with
  | spawned _ _ absent =>
    refine ⟨inv.intact, reached, ?_, ⟨below, fun failed => absurd unfailed failed⟩,
      fun failed => absurd unfailed failed, ?_⟩
    · intro part
      by_cases same : part = future.started
      · subst same
        simp [JoinSetState.spawn, JoinSetState.setNode]
      · simp only [JoinSetState.spawn, JoinSetState.setNode, Function.update_of_ne same,
          inv.spawned]
        omega
    · refine ⟨rfl, unfailed, fresh, operation, ⟨draining.known, draining.request,
        draining.dropped, ?_, ?_⟩, created, uncancelled⟩
      · simp [uncancelled]
      · rintro ⟨entry, member, _⟩
        change entry ∈ future.set.handedOut at member
        simp [fresh] at member

/-- The start of a part has thrown: the parts that are there are asked to cancel. -/
theorem Inv.startThrows (starting : future.phase = .starting part) (below : part < k)
    (exception : PartError Exception) :
    Inv k { future with
      spawnError := some exception
      set := future.set.cancelAll
      phase := .draining } := by
  rcases inv.at starting with ⟨rfl, unfailed, fresh, operation, draining, _⟩
  have asked := allAsked_cancelAll (conserved_of_reaches inv.reached)
  have step : future.set.step .cancelAll = some future.set.cancelAll := rfl
  have keeps := keeps_of_step rfl step
  refine ⟨inv.intact, SetReached.step inv.reached step, ?_, ⟨inv.bounded.1, fun _ => below⟩,
    fun _ => asked, fun unfailed => ?_, operation,
    draining.known, draining.request, draining.dropped, fun _ => asked, fun _ => .inl asked⟩
  · intro part
    rw [keeps.isSome]
    exact inv.spawned part
  · cases unfailed

theorem Inv.start (admitted : schedules future (.start outcome))
    (step : future.start k outcome = some next) : Inv k next := by
  unfold ParallelFuture.start at step
  split at step
  · rename_i part starting
    cases outcome with
    | spawned =>
      rcases Option.ite_none_right_eq_some.mp step with ⟨below, step⟩
      exact inv.spawnPart starting below step
    | throws exception =>
      rcases Option.ite_none_right_eq_some.mp step with ⟨below, step⟩
      exact (inv.startThrows starting below exception).pollDrain rfl step
    | throwsLinked => cases admitted
  · cases step

theorem Inv.enter (step : future.enter k = some next) : Inv k next := by
  unfold ParallelFuture.enter at step
  split at step
  · rename_i part starting
    rcases Option.ite_none_right_eq_some.mp step with ⟨all, step⟩
    rcases inv.at starting with ⟨here, _, _, operation, draining, _⟩
    have entered : Inv k { future with phase := .draining } :=
      ⟨inv.intact, inv.reached, inv.spawned, inv.bounded, inv.asked,
        fun _ => here.symm.trans all, operation, draining⟩
    exact entered.pollDrain rfl step
  · cases step

theorem Inv.poll (step : future.poll = some next) : Inv k next := by
  unfold ParallelFuture.poll at step
  split at step
  · cases step
    exact inv.firstPoll ‹_›
  · exact inv.pollDrain ‹_› step
  · cases step

theorem Inv.cancel (step : future.cancel = some next) : Inv k next := by
  unfold ParallelFuture.cancel at step
  split at step
  · cases step
  · rename_i is
    rcases inv.at is with ⟨absent, none, unfailed, _⟩
    cases step
    exact ⟨inv.intact, inv.reached, inv.spawned, inv.bounded, inv.asked,
      is ▸ ⟨absent, none, unfailed, rfl⟩⟩
  · rename_i is
    rcases Option.map_eq_some_iff.mp step with ⟨set, stepped, rfl⟩
    rcases inv.at is with ⟨_, operation, drains⟩
    refine inv.drainOn is rfl stepped (by rw [← is]) ?_
    cases effect stepped with
    | cancelled _ before known =>
      cases drains.known.symm.trans known
      exact drains.cancelAllOnce (conserved_of_reaches inv.reached)
        { operation with dropped := true } rfl _
  · rename_i result is
    have returned : Returned k future result := inv.at is
    split at step
    · rcases Option.map_eq_some_iff.mp step with ⟨set, stepped, rfl⟩
      refine inv.onSet rfl stepped rfl ?_
      exact is ▸ returned.keeps inv (keeps_of_step rfl stepped) rfl
    · cases step
      exact ⟨inv.intact, inv.reached, inv.spawned, inv.bounded, inv.asked,
        is ▸ returned.keeps inv (.of_nodes rfl rfl fun _ => later_self _) rfl⟩

end

/-! ### The end of the drain -/

theorem reportedFailure_eq_none_iff :
    reportedFailure (some ranksLast) failures = none ↔ failures = [] := by
  cases failures <;> simp [reportedFailure]

theorem failure_eq_none_iff {outcome : Outcome Unit (PartError Exception)} :
    outcome.failure = none ↔ outcome = .value () := by
  cases outcome <;> simp [Outcome.failure]

structure Drained (future : ParallelFuture Exception) : Prop where
  recorded : future.set.recorded = future.set.handedOut.map (·.2.1)
  outcomes : ∀ entry ∈ future.set.handedOut, future.outcomeOf entry.2.1 = some entry.2.2.outcome
  parts : ∀ part, part ∈ future.set.recorded ↔ part < future.started

theorem Inv.drained (inv : Inv k future)
    (empty : future.set.pendingHandles = [] ∧ future.set.idleHandles = [])
    (outside : future.set.toProcess () = []) : Drained future := by
  have conserved := conserved_of_reaches inv.reached
  constructor
  · have processed := conserved.processed ()
    rw [outside, List.append_nil] at processed
    simp only [JoinSetState.handedBy, JoinSetState.takenBy, decide_true, List.filter_true]
      at processed
    rw [conserved.order, empty.2, List.append_nil, processed]
  · rintro ⟨consumer, part, result⟩ member
    rcases conserved.handed consumer part result member with ⟨node, found, notified, _⟩
    simp [ParallelFuture.outcomeOf, found, notified]
  · intro part
    rw [← inv.spawned, ← conserved.spawned, empty.1, List.nil_append]

section

variable (drained : Drained future)

include drained

theorem Drained.failures : future.failures = failuresOf (future.set.resultsOf ()) := by
  simp only [ParallelFuture.failures, failuresOf, JoinSetState.resultsOf, drained.recorded,
    decide_true, List.filter_true, List.filterMap_map]
  apply List.filterMap_congr
  intro entry member
  simp [drained.outcomes entry member]

theorem Drained.terminated (below : part < future.started) :
    ∃ outcome, future.outcomeOf part = some outcome := by
  rw [← drained.parts, drained.recorded] at below
  rcases List.mem_map.mp below with ⟨entry, member, rfl⟩
  exact ⟨_, drained.outcomes entry member⟩

theorem Drained.failures_eq_nil_iff :
    future.failures = [] ↔
      ∀ part < future.started, future.outcomeOf part = some (.value ()) := by
  simp only [ParallelFuture.failures, List.filterMap_eq_nil_iff, drained.parts]
  refine forall₂_congr fun part below => ?_
  rcases drained.terminated below with ⟨outcome, is⟩
  simp [is, failure_eq_none_iff]

theorem Drained.terminates : ∀ part < future.started, future.outcomeOf part ≠ none := by
  intro part below
  rcases drained.terminated below with ⟨outcome, is⟩
  simp [is]

theorem Drained.dropped (inTime : future.cancelledInTime = true) : Returned k future .dropped := by
  refine ⟨drained.terminates, ?_, ?_, ?_, ?_⟩ <;> simp [inTime]

theorem Drained.spawnFailed (inTime : future.cancelledInTime = false)
    (failed : future.spawnError = some exception) (short : future.started < k) :
    Returned k future (.error (.exception exception)) := by
  refine ⟨drained.terminates, ?_, ?_, ?_, ?_⟩
  · simp [Nat.ne_of_lt short]
  · simp [inTime]
  · simp [failed]
  · simp [failed]

theorem Drained.failed (inTime : future.cancelledInTime = false)
    (unfailed : future.spawnError = none) (all : future.started = k) :
    Returned k future
      (.ofFailure (reportedFailure (some parallelErrorRanksLast) future.failures)) := by
  have ready : Result.ofFailure (reportedFailure (some parallelErrorRanksLast) future.failures) =
      .ready ↔ future.failures = [] := by
    rw [← reportedFailure_eq_none_iff]
    cases reportedFailure (some parallelErrorRanksLast) future.failures <;>
      simp [Result.ofFailure]
  refine ⟨drained.terminates, ?_, ?_, ?_, fun _ _ => rfl⟩
  · rw [ready, drained.failures_eq_nil_iff, all]
    simp [inTime]
  · cases reportedFailure (some parallelErrorRanksLast) future.failures <;>
      simp [Result.ofFailure, inTime]
  · simp [unfailed]

end

section

variable (inv : Inv k future)

include inv

/-- What the collector has gathered is what the parts have ended with. -/
theorem Inv.finish_eq (drained : Drained future) (drains : Draining future.set false operation) :
    operation.collector.finish =
      .ofFailure (reportedFailure (some parallelErrorRanksLast) future.failures) := by
  have bulk : operation.request.isNext = false := by
    rw [drains.request]
    rfl
  have gathered := (gathered_of_reaches inv.reached).operation () operation drains.known
  have answers := Request.answers_finish bulk (future.set.resultsOf ())
  rw [← gathered.collector bulk drains.dropped, drains.request] at answers
  rw [drained.failures]
  exact answers

theorem Inv.returned (drained : Drained future)
    (drains : Draining future.set future.cancelledInTime operation)
    (all : future.spawnError = none → future.started = k) :
    Returned k future (ParallelFuture.resultOf future.spawnError
      (if operation.dropped then .dropped else operation.collector.finish)) := by
  rw [drains.dropped]
  cases inTime : future.cancelledInTime with
  | true => exact drained.dropped inTime
  | false =>
    rw [inTime] at drains
    rw [if_neg Bool.false_ne_true, inv.finish_eq drained drains]
    cases failed : future.spawnError with
    | some exception =>
      have returned := drained.spawnFailed inTime failed (inv.bounded.2 (by simp [failed]))
      cases reportedFailure (some parallelErrorRanksLast) future.failures <;> exact returned
    | none =>
      have returned := drained.failed inTime failed (all failed)
      cases found : reportedFailure (some parallelErrorRanksLast) future.failures <;>
        rw [found] at returned <;> exact returned

theorem Inv.check (step : future.drainMove (.check ()) = some middle) :
    Inv k middle.afterCheck := by
  unfold ParallelFuture.drainMove at step
  split at step
  · rename_i is
    rcases Option.map_eq_some_iff.mp step with ⟨set, stepped, rfl⟩
    rcases inv.at is with ⟨all, operation, drains⟩
    rcases drains.check stepped with ⟨later, drains, phase⟩
    have going : Inv k { future with set } :=
      inv.drainOn is rfl stepped (by rw [← is]) ⟨later, drains⟩
    rcases phase with pending | ⟨ready, empty⟩
    · simp only [ParallelFuture.afterCheck, drains.known, pending]
      exact going
    · have outside : set.toProcess () = [] := by
        rw [Conserved.toProcess_eq drains.known, ready]
        rfl
      have returned := going.returned (going.drained empty outside) drains all
      simp only [ParallelFuture.afterCheck, drains.known, ready]
      exact ⟨going.intact, going.reached, going.spawned, going.bounded, going.asked,
        returned.keeps going (.of_nodes rfl rfl fun _ => later_self _) rfl⟩
  · cases step

/-! ### All moves -/

theorem Inv.drainMove (spawnless : isSpawn move = false)
    (drains : ∀ set operation, Draining future.set future.cancelledInTime operation →
      future.set.step move = some set → ∃ later, Draining set future.cancelledInTime later)
    (step : future.drainMove move = some next) : Inv k next := by
  unfold ParallelFuture.drainMove at step
  split at step
  · rename_i is
    rcases Option.map_eq_some_iff.mp step with ⟨set, stepped, rfl⟩
    rcases inv.at is with ⟨_, operation, draining⟩
    exact inv.drainOn is spawnless stepped (by rw [← is]) (drains set operation draining stepped)
  · cases step

theorem Inv.step (admitted : schedules future move) (step : future.step k move = some next) :
    Inv k next := by
  have conserved := conserved_of_reaches inv.reached
  rcases Option.ite_none_left_eq_some.mp step with ⟨_, step⟩
  cases move with
  | cancel => exact inv.cancel step
  | poll => exact inv.poll step
  | start outcome => exact inv.start admitted step
  | enter => exact inv.enter step
  | sweep => exact inv.drainMove rfl (fun _ _ draining => draining.sweep) step
  | take => exact inv.drainMove rfl (fun _ _ draining => draining.take inv.reached) step
  | settle => exact inv.drainMove rfl (fun _ _ draining => draining.settle conserved) step
  | check =>
    rcases Option.map_eq_some_iff.mp step with ⟨middle, checked, rfl⟩
    exact inv.check checked
  | finishPart | completePart | cancelPart | wake => exact inv.partMove rfl step

omit inv in
theorem inv_of_reaches (reached : (machine k).Reaches schedules future) : Inv k future := by
  refine reached.invariant (Inv k) ?_ ?_
  · intro future move next inv admitted step
    exact inv.step admitted step
  · refine ⟨rfl, ⟨[], .nil _⟩, ?_, ⟨Nat.zero_le k, absurd rfl⟩, absurd rfl, rfl, rfl, rfl, rfl⟩
    intro part
    simp [machine, newJoinSet]

/-! ## The outcome -/

theorem Inv.allAsked_of_returned (returned : Returned k future result) : AllAsked future.set := by
  intro part member node found
  have waiting := (conserved_of_reaches inv.reached).waiting part member node found
  rcases inv.notified returned.terminated found with ⟨outcome, notified⟩
  exact absurd notified (waiting.unnotified outcome)

omit inv in
theorem not_collected_of_nil {set : PartSet Exception} (fresh : set.handedOut = []) :
    ¬Collected set := by
  simp [Collected, fresh]

theorem Inv.failureCancels (collected : Collected future.set) (outside : ¬Sweeping future.set) :
    AllAsked future.set := by
  cases is : future.phase with
  | unpolled =>
    exact absurd collected (not_collected_of_nil (inv.handedOut_nil (inv.at is).2.1))
  | starting part => exact absurd collected (not_collected_of_nil (inv.at is).2.2.1)
  | draining =>
    rcases (inv.at is).2 with ⟨operation, draining⟩
    rcases draining.collected collected with asked | ⟨anyPending, rest, sweeping⟩
    · exact asked
    · exact absurd ⟨operation, anyPending, true, rest, draining.known, sweeping⟩ outside
  | finished result => exact inv.allAsked_of_returned (inv.at is)

end

theorem parallel_returns_outcome (reached : (machine k).Reaches schedules future) :
    Outcomes k future := by
  have inv := inv_of_reaches reached
  exact ⟨inv.intact, fun _ finished => inv.at finished, inv.asked, inv.failureCancels⟩

end Moves

/-- The failure of the team comes first, but the exception behind it is reported. -/
theorem parallel_returns_outcome_ranked :
    ∃ future : ParallelFuture Nat, (machine 2).Reaches schedules future ∧
      future.phase = .finished (.error (.exception (.other 7))) ∧
      future.failures = [.exception .teamBroken, .exception (.other 7)] ∧ Outcomes 2 future := by
  refine exists_of_exec
    [.poll, .start .spawned, .start .spawned, .enter,
      .finishPart 1 (.exception .teamBroken), .completePart 1, .sweep, .take, .settle,
      .finishPart 0 (.exception (.other 7)), .completePart 0,
      .poll, .sweep, .take, .settle, .check]
    (by decide +kernel) fun reached => ⟨?_, ?_, parallel_returns_outcome reached⟩
  all_goals decide +kernel

/-- `schedule_task()` throws, the task is destroyed, and `cancel_all()` finds its node in the
set. -/
theorem unscheduled_part_stays_linked :
    ∃ future : ParallelFuture Nat, (machine 2).Reaches anyMove future ∧
      future.spawnError = some (.other 7) ∧ ¬Outcomes 2 future := by
  refine exists_of_exec [.poll, .start (.throwsLinked (.other 7))] (by decide +kernel)
    fun _ => ⟨by decide +kernel, fun outcomes => ?_⟩
  exact absurd outcomes.intact (by decide +kernel)

end CoroRuntime.Parallel
