import CoroRuntime.JoinSet.Conservation
import Mathlib.Data.List.Induction

/-! # Every task is reported once -/

namespace CoroRuntime.JoinSet

open Foundation
open Function (update update_self update_of_ne)

/-! ## What an operation returns -/

section Answers

variable {Tag Value Exception : Type}

/-- The failure to report: the first one, but one that ranks last gives way to the first
that does not. -/
def reportedFailure (ranksLast : Option (Failure Exception → Bool))
    (failures : List (Failure Exception)) : Option (Failure Exception) :=
  match ranksLast with
  | none => failures.head?
  | some ranksLast => (failures.find? fun failure => !ranksLast failure).or failures.head?

def failuresOf (results : List (JoinResult Tag Value Exception)) : List (Failure Exception) :=
  results.filterMap fun result => result.outcome.failure

def Answer.ofFailure : Option (Failure Exception) → Answer Tag Value Exception
  | some failure => .error failure
  | none => .ready

/-- The results of an operation that was not cancelled, from what it has taken. -/
def Request.Answers (results : List (JoinResult Tag Value Exception)) :
    Request Tag Value Exception → Answer Tag Value Exception → Prop
  | .next, answer =>
    answer = .item none ∨ ∃ result, results.getLast? = some result ∧ answer = .item (some result)
  | .joinAll into _, answer => answer = .results (into ++ results)
  | .drain ranksLast _, answer =>
    answer = Answer.ofFailure (reportedFailure ranksLast (failuresOf results))
  | .shutdown, answer => answer = .ready

theorem keepFailure_reported (ranksLast : Option (Failure Exception → Bool))
    (failures : List (Failure Exception)) (failure : Failure Exception) :
    keepFailure ranksLast failure (reportedFailure ranksLast failures) =
      reportedFailure ranksLast (failures ++ [failure]) := by
  cases ranksLast with
  | none => cases failures <;> rfl
  | some ranksLast =>
    simp only [reportedFailure, List.find?_append, List.find?_singleton]
    cases found : failures.find? fun failure => !ranksLast failure with
    | some first =>
      have kept : ranksLast first = false := by
        simpa using List.find?_some found
      simp [keepFailure, kept]
    | none =>
      cases failures with
      | nil => cases ranksLast failure <;> rfl
      | cons first rest =>
        have last : ranksLast first := by
          simpa using List.find?_eq_none.mp found first (List.mem_cons_self ..)
        cases ranks : ranksLast failure <;> simp [keepFailure, last, ranks]

theorem add_joinAll (results : List (JoinResult Tag Value Exception)) :
    ∀ into, results.foldl Collector.add (.joinAll into) = .joinAll (into ++ results) := by
  induction results with
  | nil => simp
  | cons result rest induction =>
    intro into
    rw [List.foldl_cons, Collector.add, induction]
    simp

theorem add_drain (ranksLast : Option (Failure Exception → Bool))
    (results : List (JoinResult Tag Value Exception)) :
    results.foldl Collector.add (.drain none ranksLast) =
      .drain (reportedFailure ranksLast (failuresOf results)) ranksLast := by
  induction results using List.reverseRecOn with
  | nil => cases ranksLast <;> rfl
  | append_singleton results result induction =>
    have failures : failuresOf (results ++ [result]) =
        failuresOf results ++ result.outcome.failure.toList := by
      simp [failuresOf, List.filterMap_cons]
      cases result.outcome.failure <;> rfl
    rw [List.foldl_append, induction, List.foldl_cons, List.foldl_nil, failures]
    cases failed : result.outcome.failure with
    | none => simp [Collector.add, failed]
    | some failure => simp [Collector.add, failed, keepFailure_reported]

theorem add_shutdown (results : List (JoinResult Tag Value Exception)) :
    results.foldl Collector.add .shutdown = .shutdown := by
  induction results with
  | nil => rfl
  | cons result rest induction => exact induction

theorem Request.answers_finish {request : Request Tag Value Exception}
    (bulk : request.isNext = false) (results : List (JoinResult Tag Value Exception)) :
    request.Answers results (results.foldl Collector.add request.collector).finish := by
  cases request with
  | next => cases bulk
  | joinAll into onError =>
    rw [Request.collector, add_joinAll]
    rfl
  | drain ranksLast onError =>
    rw [Request.collector, add_drain]
    show Collector.finish _ = Answer.ofFailure _
    cases reportedFailure ranksLast (failuresOf results) <;> rfl
  | shutdown =>
    rw [Request.collector, add_shutdown]
    rfl

end Answers

/-! ## What an operation has gathered -/

/-- The stream and the bulk futures have phases of their own. -/
def Phase.suits {Task Tag Value Exception : Type} :
    Phase Task Tag Value Exception → Request Tag Value Exception → Bool
  | .taking _, request => request.isNext
  | .sweeping .., request => !request.isNext
  | .checking, request => !request.isNext
  | _, _ => true

structure Operation.Gathered {Task Tag Value Exception : Type}
    (operation : Operation Task Tag Value Exception)
    (results : List (JoinResult Tag Value Exception)) : Prop where
  suits : operation.phase.suits operation.request
  collector : operation.request.isNext = false → operation.dropped = false →
    operation.collector = results.foldl Collector.add operation.request.collector
  answer : ∀ answer, operation.phase = .ready answer →
    answer = .dropped ∧ operation.dropped ∨ operation.request.Answers results answer

variable {Task Consumer Tag Value Exception : Type} [DecidableEq Task] [DecidableEq Consumer]
  {state next : JoinSetState Task Consumer Tag Value Exception}

structure Gathered (state : JoinSetState Task Consumer Tag Value Exception) : Prop where
  absent : ∀ consumer, state.consumer consumer = none → state.resultsOf consumer = []
  operation : ∀ consumer operation, state.consumer consumer = some operation →
    operation.Gathered (state.resultsOf consumer)

namespace Gathered

omit [DecidableEq Task]

variable (gathered : Gathered state)

include gathered

theorem setConsumer {operation : Operation Task Tag Value Exception}
    (consumers : next.consumer = update state.consumer consumer (some operation))
    (handedOut : next.handedOut = state.handedOut)
    (results : operation.Gathered (state.resultsOf consumer)) : Gathered next := by
  have same : ∀ other, next.resultsOf other = state.resultsOf other := by
    intro other
    simp only [JoinSetState.resultsOf, handedOut]
  constructor
  · intro other unknown
    rw [consumers] at unknown
    by_cases equal : other = consumer
    · subst equal
      rw [update_self] at unknown
      cases unknown
    · rw [update_of_ne equal] at unknown
      rw [same]
      exact gathered.absent other unknown
  · intro other content known
    rw [consumers] at known
    rw [same]
    by_cases equal : other = consumer
    · subst equal
      rw [update_self] at known
      cases known
      exact results
    · rw [update_of_ne equal] at known
      exact gathered.operation other content known

theorem proceed {operation : Operation Task Tag Value Exception}
    (known : state.consumer consumer = some operation)
    (consumers : next.consumer = update state.consumer consumer (some later))
    (handedOut : next.handedOut = state.handedOut) (request : later.request = operation.request)
    (collector : later.collector = operation.collector)
    (dropped : operation.dropped → later.dropped) (suits : later.phase.suits operation.request)
    (unready : ∀ answer, later.phase = .ready answer → operation.phase = .ready answer) :
    Gathered next := by
  have before := gathered.operation consumer operation known
  refine gathered.setConsumer consumers handedOut ⟨?_, ?_, ?_⟩
  · rw [request]
    exact suits
  · intro bulk kept
    rw [collector, request]
    refine before.collector (request ▸ bulk) (Bool.eq_false_iff.mpr fun was => ?_)
    exact Bool.eq_false_iff.mp kept (dropped was)
  · intro answer ready
    rw [request]
    rcases before.answer answer (unready answer ready) with ⟨same, was⟩ | answers
    · exact .inl ⟨same, dropped was⟩
    · exact .inr answers

theorem setReady {operation : Operation Task Tag Value Exception}
    (known : state.consumer consumer = some operation)
    (answers : answer = .dropped ∧ operation.dropped ∨
      operation.request.Answers (state.resultsOf consumer) answer) :
    Gathered (state.setConsumer consumer { operation with phase := .ready answer }) := by
  refine gathered.setConsumer rfl rfl
    ⟨rfl, (gathered.operation consumer operation known).collector, ?_⟩
  intro other ready
  cases ready
  exact answers

theorem awaken (waker : Consumer × Nat) : Gathered (state.awaken waker) := by
  constructor
  · intro consumer unknown
    simp only [JoinSetState.awaken] at unknown
    split at unknown
    · exact gathered.absent consumer (Option.map_eq_none_iff.mp unknown)
    · exact gathered.absent consumer unknown
  · intro consumer operation known
    simp only [JoinSetState.awaken] at known
    split at known
    · rcases Option.map_eq_some_iff.mp known with ⟨before, known', made⟩
      subst made
      have results := gathered.operation consumer before known'
      exact ⟨results.suits, results.collector, results.answer⟩
    · exact gathered.operation consumer operation known

variable [DecidableEq Task]

theorem takeFrom
    (results : ∀ result, (received result).Gathered (state.resultsOf consumer ++ [result])) :
    Gathered (state.takeFrom consumer task received) := by
  unfold JoinSetState.takeFrom
  split
  · rename_i result node _
    constructor
    · intro other unknown
      simp only [JoinSetState.setConsumer] at unknown
      by_cases same : other = consumer
      · subst same
        rw [update_self] at unknown
        cases unknown
      · rw [update_of_ne same] at unknown
        simpa [JoinSetState.resultsOf, Ne.symm same] using gathered.absent other unknown
    · intro other content known
      simp only [JoinSetState.setConsumer] at known
      by_cases same : other = consumer
      · subst same
        rw [update_self] at known
        cases known
        simpa [JoinSetState.resultsOf] using results result
      · rw [update_of_ne same] at known
        simpa [JoinSetState.resultsOf, Ne.symm same] using gathered.operation other content known
  · exact ⟨gathered.absent, gathered.operation⟩

theorem cancelAllOnce {operation : Operation Task Tag Value Exception}
    (known : state.consumer consumer = some operation) (request : later.request = operation.request)
    (collector : later.collector = operation.collector)
    (dropped : operation.dropped → later.dropped) (suits : phase.suits operation.request)
    (unready : ∀ answer, phase = .ready answer → operation.phase = .ready answer) :
    Gathered (state.cancelAllOnce consumer later phase) := by
  unfold JoinSetState.cancelAllOnce
  split
  · exact gathered.proceed known rfl rfl request collector dropped suits unready
  · exact gathered.proceed known rfl rfl request collector dropped suits unready

omit [DecidableEq Task] in
theorem pollNext {operation : Operation Task Tag Value Exception}
    (known : state.consumer consumer = some operation) (stream : operation.request.isNext) :
    Gathered (state.pollNext consumer operation) := by
  unfold JoinSetState.pollNext
  split
  · exact gathered.proceed known rfl rfl rfl rfl id stream nofun
  · split
    · exact gathered.proceed known rfl rfl rfl rfl id rfl nofun
    · apply gathered.setReady known
      right
      cases asked : operation.request <;> rw [asked] at stream
      · exact .inl rfl
      all_goals cases stream

theorem tookNext {operation : Operation Task Tag Value Exception}
    (stream : operation.request.isNext) :
    Gathered (state.takeFrom consumer task fun result =>
      { operation with phase := .ready (.item (some result)) }) := by
  apply gathered.takeFrom
  intro result
  refine ⟨rfl, ?_, ?_⟩
  · intro bulk
    exact absurd stream (Bool.eq_false_iff.mp bulk)
  · intro answer ready
    cases ready
    right
    cases asked : operation.request <;> rw [asked] at stream
    · exact .inr ⟨result, by simp, rfl⟩
    all_goals cases stream

theorem took {operation : Operation Task Tag Value Exception}
    (known : state.consumer consumer = some operation) (bulk : operation.request.isNext = false) :
    Gathered (state.takeFrom consumer task fun result =>
      JoinSetState.receive operation result anyPending failed rest) := by
  have before := gathered.operation consumer operation known
  apply gathered.takeFrom
  intro result
  refine ⟨by simp [JoinSetState.receive, Phase.suits, bulk], ?_, nofun⟩
  intro _ kept
  simp only [JoinSetState.receive] at kept ⊢
  rw [kept, if_neg (by simp), before.collector bulk kept, List.foldl_append]
  rfl

theorem settle {operation : Operation Task Tag Value Exception}
    (known : state.consumer consumer = some operation) (bulk : operation.request.isNext = false) :
    Gathered (state.settle consumer operation anyPending failed) := by
  have suits : (if anyPending then .pending else .checking :
      Phase Task Tag Value Exception).suits operation.request := by
    cases anyPending <;> simp [Phase.suits, bulk]
  have unready : ∀ answer, (if anyPending then .pending else .checking :
      Phase Task Tag Value Exception) = .ready answer → operation.phase = .ready answer := by
    cases anyPending <;> exact nofun
  unfold JoinSetState.settle
  dsimp only
  split
  · exact gathered.cancelAllOnce known rfl rfl id suits unready
  · exact gathered.proceed known rfl rfl rfl rfl id suits unready

omit [DecidableEq Task] in
theorem check {operation : Operation Task Tag Value Exception}
    (known : state.consumer consumer = some operation) (bulk : operation.request.isNext = false) :
    Gathered (state.check consumer operation) := by
  unfold JoinSetState.check
  split
  · exact gathered.proceed known rfl rfl rfl rfl id rfl nofun
  · apply gathered.setReady known
    split
    · rename_i was
      exact .inl ⟨rfl, was⟩
    · rename_i kept
      right
      have collected := (gathered.operation consumer operation known).collector bulk
        (Bool.eq_false_iff.mpr kept)
      rw [collected]
      exact Request.answers_finish bulk _

theorem step (effect : Effect state move next) : Gathered next := by
  cases effect with
  | spawned | cancelledTask | finished | cancelledAll => exact ⟨gathered.absent, gathered.operation⟩
  | completed =>
    unfold JoinSetState.onTaskComplete
    split <;> exact ⟨gathered.absent, gathered.operation⟩
  | woken waker => exact gathered.awaken waker
  | requested consumer request fresh =>
    refine gathered.setConsumer rfl rfl ⟨rfl, ?_, nofun⟩
    intro _ _
    rw [gathered.absent consumer fresh]
    rfl
  | cancelled consumer operation known =>
    have suits := (gathered.operation consumer operation known).suits
    exact gathered.cancelAllOnce known rfl rfl (fun _ => rfl) suits fun _ => id
  | destroyed consumer operation known =>
    exact gathered.proceed known rfl rfl rfl rfl id rfl nofun
  | polled consumer operation known =>
    unfold JoinSetState.beginPoll
    dsimp only
    split
    · exact gathered.cancelAllOnce known rfl rfl id rfl nofun
    · exact gathered.proceed known rfl rfl rfl rfl id rfl nofun
  | polledNext consumer operation known _ stream => exact gathered.pollNext known stream
  | swept consumer operation known _ bulk =>
    exact gathered.proceed known rfl rfl rfl rfl id (by simp [Phase.suits, bulk]) nofun
  | tookNext consumer operation task known taking =>
    have suits := (gathered.operation consumer operation known).suits
    rw [taking] at suits
    exact gathered.tookNext suits
  | took consumer operation task anyPending failed rest known sweeping =>
    have suits := (gathered.operation consumer operation known).suits
    rw [sweeping] at suits
    exact gathered.took known (Bool.not_eq_true' _ |>.mp suits)
  | settled consumer operation anyPending failed known sweeping =>
    have suits := (gathered.operation consumer operation known).suits
    rw [sweeping] at suits
    exact gathered.settle known (Bool.not_eq_true' _ |>.mp suits)
  | checked consumer operation known checking =>
    have suits := (gathered.operation consumer operation known).suits
    rw [checking] at suits
    exact gathered.check known (Bool.not_eq_true' _ |>.mp suits)

end Gathered

/-! ## The accounting -/

/-- Every task that was spawned has completed and its node was popped, and the consumer has the
results of those that it popped. -/
structure Collected (state : JoinSetState Task Consumer Tag Value Exception)
    (consumer : Consumer) : Prop where
  pending : state.pendingHandles = []
  idle : state.idleHandles = []
  popped : ∀ task, (state.node task).isSome → task ∈ state.taken.map (·.2)
  handed : state.handedBy consumer = state.takenBy consumer

/-- When the consumer's call looked for the last time, everything was collected. The consumer
was not polled since, and it got nothing more. -/
def EndsCollected (state : JoinSetState Task Consumer Tag Value Exception)
    (consumer : Consumer) : Prop :=
  ∃ before look next moves,
    (joinSetMachine Task Consumer Tag Value Exception).Reaches anyMove before ∧
    Collected before consumer ∧ (look = .check consumer ∨ look = .sweep consumer) ∧
    before.step look = some next ∧
    (joinSetMachine Task Consumer Tag Value Exception).Path anyMove next moves state ∧
    .poll consumer ∉ moves ∧ state.handedBy consumer = before.handedBy consumer

omit [DecidableEq Task] in
theorem Conserved.collected (conserved : Conserved state) {operation}
    (known : state.consumer consumer = some operation) (idle : state.idleHandles = [])
    (pending : state.pendingHandles = []) (free : operation.phase.toProcess = []) :
    Collected state consumer := by
  refine ⟨pending, idle, ?_, ?_⟩
  · intro task spawned
    rw [← conserved.spawned, conserved.order, pending, idle, List.nil_append,
      List.append_nil] at spawned
    exact spawned
  · rw [← conserved.processed, toProcess_eq known, free, List.append_nil]

/-- How an operation comes to be ready, other than with a result: it was, or it is now. -/
structure Returns (state next : JoinSetState Task Consumer Tag Value Exception)
    (move : Move Task Consumer Tag Value Exception) (consumer : Consumer)
    (answer : Answer Tag Value Exception) : Prop where
  handed : next.handedBy consumer = state.handedBy consumer
  before : (move ≠ .poll consumer ∧ ∃ operation, state.consumer consumer = some operation ∧
      operation.phase = .ready answer) ∨
    ((move = .check consumer ∨ move = .sweep consumer) ∧ Collected state consumer)

section Returns

variable {operation later : Operation Task Tag Value Exception}

omit [DecidableEq Task] in
theorem Returns.of_update (known : next.consumer asked = some operation)
    (ready : operation.phase = .ready answer)
    (consumers : next.consumer = update state.consumer consumer (some later))
    (handed : asked ≠ consumer → next.handedBy asked = state.handedBy asked)
    (other : asked ≠ consumer → move ≠ .poll asked)
    (here : asked = consumer → later.phase = .ready answer → Returns state next move asked answer) :
    Returns state next move asked answer := by
  rw [consumers] at known
  by_cases same : asked = consumer
  · refine here same ?_
    rw [same, update_self] at known
    cases known
    exact ready
  · rw [update_of_ne same] at known
    exact ⟨handed same, .inl ⟨other same, operation, known, ready⟩⟩

theorem Returns.of_cancelAllOnce
    (known : (state.cancelAllOnce consumer later phase).consumer asked = some operation)
    (ready : operation.phase = .ready answer) (other : asked ≠ consumer → move ≠ .poll asked)
    (here : asked = consumer → phase = .ready answer →
      Returns state (state.cancelAllOnce consumer later phase) move asked answer) :
    Returns state (state.cancelAllOnce consumer later phase) move asked answer := by
  unfold JoinSetState.cancelAllOnce at known here ⊢
  split at known
  · rw [if_pos ‹_›] at here ⊢
    exact .of_update known ready rfl (fun _ => rfl) other here
  · rw [if_neg ‹_›] at here ⊢
    exact .of_update known ready rfl (fun _ => rfl) other here

theorem Returns.of_takeFrom
    (known : (state.takeFrom consumer task received).consumer asked = some operation)
    (ready : operation.phase = .ready answer)
    (here : ∀ result, (received result).phase ≠ .ready answer) :
    Returns state (state.takeFrom consumer task received) (.take consumer) asked answer := by
  unfold JoinSetState.takeFrom at known ⊢
  split at known
  · refine .of_update known ready rfl ?_ (by simp) fun _ is => absurd is (here _)
    intro apart
    simp [JoinSetState.handedBy, Ne.symm apart]
  · exact ⟨rfl, .inl ⟨by simp, operation, known, ready⟩⟩

theorem Effect.returns (conserved : Conserved state) (effect : Effect state move next)
    (known : next.consumer asked = some operation) (ready : operation.phase = .ready answer)
    (ends : ∀ result, answer ≠ .item (some result)) : Returns state next move asked answer := by
  cases effect with
  | spawned | cancelledTask | finished | cancelledAll =>
    exact ⟨rfl, .inl ⟨by simp, operation, known, ready⟩⟩
  | completed =>
    unfold JoinSetState.onTaskComplete at known ⊢
    split at known
    · rw [if_pos ‹_›]
      exact ⟨rfl, .inl ⟨by simp, operation, known, ready⟩⟩
    · rw [if_neg ‹_›]
      exact ⟨rfl, .inl ⟨by simp, operation, known, ready⟩⟩
  | woken waker =>
    refine ⟨rfl, .inl ⟨by simp, ?_⟩⟩
    simp only [JoinSetState.awaken] at known
    split at known
    · rcases Option.map_eq_some_iff.mp known with ⟨before, found, rfl⟩
      exact ⟨before, found, ready⟩
    · exact ⟨operation, known, ready⟩
  | requested | destroyed | swept =>
    exact .of_update known ready rfl (fun _ => rfl) (by simp) fun _ is => by cases is
  | cancelled consumer before found =>
    refine .of_cancelAllOnce known ready (by simp) fun same was => ?_
    refine ⟨?_, .inl ⟨by simp, before, same ▸ found, was⟩⟩
    unfold JoinSetState.cancelAllOnce
    split <;> rfl
  | polled consumer before found =>
    have other : asked ≠ consumer →
        (.poll consumer : Move Task Consumer Tag Value Exception) ≠ .poll asked := by
      intro apart is
      cases is
      exact apart rfl
    unfold JoinSetState.beginPoll at known ⊢
    dsimp only at known ⊢
    split at known
    · rw [if_pos ‹_›]
      exact .of_cancelAllOnce known ready other fun _ is => by cases is
    · rw [if_neg ‹_›]
      exact .of_update known ready rfl (fun _ => rfl) other fun _ is => by cases is
  | polledNext consumer before found begun =>
    unfold JoinSetState.pollNext at known ⊢
    split at known
    · exact .of_update known ready rfl (fun _ => rfl) (by simp) fun _ is => by cases is
    · rename_i idle
      split at known
      · rw [if_pos ‹_›]
        exact .of_update known ready rfl (fun _ => rfl) (by simp) fun _ is => by cases is
      · rename_i pending
        rw [if_neg pending]
        refine .of_update known ready rfl (fun _ => rfl) (by simp) fun same _ => ?_
        subst same
        refine ⟨rfl, .inr ⟨.inr rfl, conserved.collected found idle (not_not.mp pending) ?_⟩⟩
        rw [begun]
        rfl
  | tookNext =>
    refine .of_takeFrom known ready fun result is => ?_
    cases is
    exact ends result rfl
  | took => exact .of_takeFrom known ready fun _ is => by cases is
  | settled consumer before anyPending =>
    have unready : (if anyPending then .pending else .checking :
        Phase Task Tag Value Exception) ≠ .ready answer := by
      cases anyPending <;> simp
    unfold JoinSetState.settle at known ⊢
    dsimp only at known ⊢
    split at known
    · rw [if_pos ‹_›]
      exact .of_cancelAllOnce known ready (by simp) fun _ is => absurd is unready
    · rw [if_neg ‹_›]
      exact .of_update known ready rfl (fun _ => rfl) (by simp) fun _ is => absurd is unready
  | checked consumer before found checking =>
    unfold JoinSetState.check at known ⊢
    split at known
    · rw [if_pos ‹_›]
      exact .of_update known ready rfl (fun _ => rfl) (by simp) fun _ is => by cases is
    · rename_i empty
      rw [if_neg empty]
      refine .of_update known ready rfl (fun _ => rfl) (by simp) fun same _ => ?_
      subst same
      simp only [not_or, not_not] at empty
      refine ⟨rfl, .inr ⟨.inl rfl, conserved.collected found empty.2 empty.1 ?_⟩⟩
      rw [checking]
      rfl

end Returns

theorem conserved_of_reaches
    (reached : (joinSetMachine Task Consumer Tag Value Exception).Reaches anyMove state) :
    Conserved state := by
  refine reached.invariant Conserved ?_ ?_
  · intro state move next conserved _ step
    exact conserved.step (effect step)
  · constructor
    · exact List.nodup_nil
    · intro task
      exact ⟨(nomatch ·), (nomatch ·)⟩
    · rfl
    · exact fun _ => rfl
    · exact fun _ member => nomatch member
    · exact fun _ member => nomatch member
    · exact fun _ _ _ member => nomatch member
    · exact List.nodup_nil
    · rfl

theorem gathered_of_reaches
    (reached : (joinSetMachine Task Consumer Tag Value Exception).Reaches anyMove state) :
    Gathered state := by
  refine reached.invariant Gathered ?_ ?_
  · intro state move next gathered _ step
    exact gathered.step (effect step)
  · refine ⟨fun _ _ => rfl, ?_⟩
    intro consumer operation known
    cases known

theorem EndsCollected.step (ends : EndsCollected state consumer)
    (step : state.step move = some next) (unpolled : move ≠ .poll consumer)
    (handed : next.handedBy consumer = state.handedBy consumer) : EndsCollected next consumer := by
  rcases ends with ⟨before, look, looked, moves, reached, collected, looks, first, path, none, same⟩
  refine ⟨before, look, looked, moves ++ [move], reached, collected, looks, first,
    path.snoc trivial step, ?_, handed.trans same⟩
  intro polled
  rcases List.mem_append.mp polled with earlier | now
  · exact none earlier
  · exact unpolled (List.mem_singleton.mp now).symm

end CoroRuntime.JoinSet
