import CoroRuntime.JoinSet.Set
import Mathlib.Data.Fintype.Basic

/-! # The consumer of a join set is woken -/

namespace CoroRuntime.JoinSet

open Foundation

section Phases

variable {Task Tag Value Exception : Type}

/-- The poll has stored its waker, and returns Pending or has done so. -/
def Phase.registered : Phase Task Tag Value Exception → Bool
  | .pending => true
  | .sweeping anyPending _ _ => anyPending
  | _ => false

theorem Phase.outstanding_of_registered {phase : Phase Task Tag Value Exception}
    (registered : phase.registered) : phase.outstanding := by
  cases phase <;> first | rfl | cases registered

end Phases

variable {Task Consumer Tag Value Exception : Type} [DecidableEq Task] [DecidableEq Consumer]
  {state next : JoinSetState Task Consumer Tag Value Exception}

/-- One consumer at a time: an operation is polled while no other one is outstanding. -/
def oneConsumer (state : JoinSetState Task Consumer Tag Value Exception) :
    Move Task Consumer Tag Value Exception → Prop
  | .poll consumer => ∀ other, other ≠ consumer →
      ∀ operation ∈ state.consumer other, operation.phase.outstanding = false
  | _ => True

instance [Fintype Consumer] (state : JoinSetState Task Consumer Tag Value Exception)
    (move : Move Task Consumer Tag Value Exception) : Decidable (oneConsumer state move) := by
  cases move <;> unfold oneConsumer <;> infer_instance

/-- One consumer at a time, and a second critical section never finds a task that has
completed since the first one while none is running. -/
def recheckAttended (state : JoinSetState Task Consumer Tag Value Exception) :
    Move Task Consumer Tag Value Exception → Prop
  | .check _ => state.pendingHandles = [] → state.idleHandles = []
  | move => oneConsumer state move

instance [Fintype Consumer] (state : JoinSetState Task Consumer Tag Value Exception)
    (move : Move Task Consumer Tag Value Exception) : Decidable (recheckAttended state move) := by
  cases move <;> unfold recheckAttended <;> infer_instance

/-- A consumer whose last poll returned Pending, that was not woken since that poll began,
and for which no wake is in flight. -/
structure JoinSetState.Asleep (state : JoinSetState Task Consumer Tag Value Exception)
    (consumer : Consumer) (operation : Operation Task Tag Value Exception) : Prop where
  known : state.consumer consumer = some operation
  pending : operation.phase = .pending
  unwoken : operation.woken = false
  grounded : ∀ waker ∈ state.inFlight, waker.1 ≠ consumer

/-- Some task is running, and its completion will find the waker of the last poll. -/
def ConsumersWoken (state : JoinSetState Task Consumer Tag Value Exception) : Prop :=
  ∀ consumer operation, state.Asleep consumer operation →
    state.pendingHandles ≠ [] ∧ state.consumerWaker = some (consumer, operation.polls)

structure Alerted (state : JoinSetState Task Consumer Tag Value Exception) : Prop where
  sole : ∀ {consumer other operation operation'}, state.consumer consumer = some operation →
    state.consumer other = some operation' → operation.phase.outstanding →
    operation'.phase.outstanding → consumer = other
  running : state.consumerWaker ≠ none → state.pendingHandles ≠ []
  registered : ∀ consumer operation, state.consumer consumer = some operation →
    operation.phase.registered →
      state.consumerWaker = some (consumer, operation.polls) ∨ operation.woken ∨
      ∃ waker ∈ state.inFlight, waker.1 = consumer

namespace Alerted

omit [DecidableEq Task] [DecidableEq Consumer]

theorem of_tasks (alerted : Alerted state) (consumers : next.consumer = state.consumer)
    (waker : next.consumerWaker = state.consumerWaker)
    (inFlight : next.inFlight = state.inFlight)
    (pending : state.pendingHandles ≠ [] → next.pendingHandles ≠ []) : Alerted next := by
  constructor
  · rw [consumers]
    exact alerted.sole
  · rw [waker]
    exact fun stored => pending (alerted.running stored)
  · rw [consumers, waker, inFlight]
    exact alerted.registered

variable [DecidableEq Consumer]

theorem consumer_eq
    (consumers : next.consumer = Function.update state.consumer consumer (some later))
    (found : next.consumer other = some content) :
    other = consumer ∧ content = later ∨
      other ≠ consumer ∧ state.consumer other = some content := by
  rw [consumers] at found
  by_cases same : other = consumer
  · subst same
    rw [Function.update_self] at found
    exact .inl ⟨rfl, (Option.some.inj found).symm⟩
  · rw [Function.update_of_ne same] at found
    exact .inr ⟨same, found⟩

theorem sole_update (alerted : Alerted state)
    (consumers : next.consumer = Function.update state.consumer consumer (some later))
    (alone : later.phase.outstanding → ∀ other, other ≠ consumer → ∀ content,
      state.consumer other = some content → content.phase.outstanding = false)
    (known : next.consumer first = some operation) (known' : next.consumer second = some operation')
    (outstanding : operation.phase.outstanding) (outstanding' : operation'.phase.outstanding) :
    first = second := by
  rcases consumer_eq consumers known with ⟨same, rfl⟩ | ⟨different, before⟩ <;>
    rcases consumer_eq consumers known' with ⟨same', rfl⟩ | ⟨different', before'⟩
  · rw [same, same']
  · rw [alone outstanding second different' _ before'] at outstanding'
    cases outstanding'
  · rw [alone outstanding' first different _ before] at outstanding
    cases outstanding
  · exact alerted.sole before before' outstanding outstanding'

variable (alerted : Alerted state)

include alerted

omit [DecidableEq Consumer] in
theorem alone (known : state.consumer consumer = some operation)
    (outstanding : operation.phase.outstanding) :
    ∀ other, other ≠ consumer → ∀ content, state.consumer other = some content →
      content.phase.outstanding = false := by
  intro other different content found
  by_contra still
  exact different (alerted.sole found known (Bool.not_eq_false _ ▸ still) outstanding)

theorem proceed (consumers : next.consumer = Function.update state.consumer consumer (some later))
    (waker : next.consumerWaker = state.consumerWaker) (inFlight : next.inFlight = state.inFlight)
    (pending : next.pendingHandles = state.pendingHandles)
    (alone : later.phase.outstanding → ∀ other, other ≠ consumer → ∀ content,
      state.consumer other = some content → content.phase.outstanding = false)
    (kept : later.phase.registered → ∃ operation, state.consumer consumer = some operation ∧
      operation.phase.registered ∧ later.polls = operation.polls ∧
      later.woken = operation.woken) : Alerted next := by
  constructor
  · exact alerted.sole_update consumers alone
  · rw [waker, pending]
    exact alerted.running
  · intro other content found registered
    rw [waker, inFlight]
    rcases consumer_eq consumers found with ⟨rfl, rfl⟩ | ⟨_, before⟩
    · rcases kept registered with ⟨operation, known, before, polls, woken⟩
      rw [polls, woken]
      exact alerted.registered _ operation known before
    · exact alerted.registered other content before registered

theorem register (known : state.consumer consumer = some operation)
    (outstanding : operation.phase.outstanding)
    (consumers : next.consumer = Function.update state.consumer consumer (some later))
    (waker : next.consumerWaker = some (consumer, later.polls))
    (running : next.pendingHandles ≠ []) : Alerted next := by
  have alone := alerted.alone known outstanding
  constructor
  · exact alerted.sole_update consumers fun _ => alone
  · exact fun _ => running
  · intro other content found registered
    rcases consumer_eq consumers found with ⟨rfl, rfl⟩ | ⟨different, before⟩
    · exact .inl waker
    · have idle := alone other different content before
      rw [Phase.outstanding_of_registered registered] at idle
      cases idle

theorem awaken (waker : Consumer × Nat) : Alerted (state.awaken waker) := by
  have origin : ∀ {consumer later}, (state.awaken waker).consumer consumer = some later →
      ∃ operation, state.consumer consumer = some operation ∧ later.phase = operation.phase ∧
        later.polls = operation.polls ∧
        (consumer = waker.1 ∧ later.woken ∨
          consumer ≠ waker.1 ∧ later.woken = operation.woken) := by
    intro consumer later found
    simp only [JoinSetState.awaken] at found
    split at found
    · rcases Option.map_eq_some_iff.mp found with ⟨operation, known, made⟩
      subst made
      exact ⟨operation, known, rfl, rfl, .inl ⟨‹_›, rfl⟩⟩
    · exact ⟨later, found, rfl, rfl, .inr ⟨‹_›, rfl⟩⟩
  constructor
  · intro consumer other operation operation' known known' outstanding outstanding'
    rcases origin known with ⟨before, found, phase, _⟩
    rcases origin known' with ⟨before', found', phase', _⟩
    rw [phase] at outstanding
    rw [phase'] at outstanding'
    exact alerted.sole found found' outstanding outstanding'
  · exact alerted.running
  · intro consumer later found registered
    rcases origin found with ⟨operation, known, phase, polls, ⟨_, woken⟩ | ⟨different, woken⟩⟩
    · exact .inr (.inl woken)
    · rw [phase] at registered
      rw [polls, woken]
      rcases alerted.registered consumer operation known registered with
        stored | before | ⟨other, flying, owner⟩
      · exact .inl stored
      · exact .inr (.inl before)
      · have remains : other ≠ waker := by
          rintro rfl
          exact different owner.symm
        exact .inr (.inr ⟨other, (List.mem_erase_of_ne remains).mpr flying, owner⟩)

variable [DecidableEq Task]

omit [DecidableEq Consumer] in
theorem onTaskComplete : Alerted (state.onTaskComplete task node outcome) := by
  unfold JoinSetState.onTaskComplete
  split
  · constructor
    · exact alerted.sole
    · exact fun stored => absurd rfl stored
    · intro consumer operation known registered
      rcases alerted.registered consumer operation known registered with
        stored | woken | ⟨waker, flying, owner⟩
      · refine .inr (.inr ⟨(consumer, operation.polls), List.mem_append_left _ ?_, rfl⟩)
        rw [stored]
        exact List.mem_singleton.mpr rfl
      · exact .inr (.inl woken)
      · exact .inr (.inr ⟨waker, List.mem_append_right _ flying, owner⟩)
  · exact alerted.of_tasks rfl rfl rfl id

theorem cancelAllOnce (alone : phase.outstanding → ∀ other, other ≠ consumer → ∀ content,
      state.consumer other = some content → content.phase.outstanding = false)
    (kept : phase.registered → ∃ operation, state.consumer consumer = some operation ∧
      operation.phase.registered ∧ later.polls = operation.polls ∧
      later.woken = operation.woken) : Alerted (state.cancelAllOnce consumer later phase) := by
  unfold JoinSetState.cancelAllOnce
  split
  · exact alerted.proceed rfl rfl rfl rfl alone kept
  · exact alerted.proceed rfl rfl rfl rfl alone kept

theorem beginPoll (alone : oneConsumer state (.poll consumer)) :
    Alerted (state.beginPoll consumer operation) := by
  unfold JoinSetState.beginPoll
  dsimp only
  split
  · exact alerted.cancelAllOnce (fun _ => alone) nofun
  · exact alerted.proceed rfl rfl rfl rfl (fun _ => alone) nofun

omit [DecidableEq Task] in
theorem pollNext (known : state.consumer consumer = some operation)
    (begun : operation.phase = .begun) : Alerted (state.pollNext consumer operation) := by
  have outstanding : operation.phase.outstanding := by
    rw [begun]
    rfl
  unfold JoinSetState.pollNext
  split
  · exact alerted.proceed rfl rfl rfl rfl (fun _ => alerted.alone known outstanding) nofun
  · split
    · exact alerted.register known outstanding rfl rfl ‹_›
    · exact alerted.proceed rfl rfl rfl rfl nofun nofun

omit [DecidableEq Task] in
theorem sweepIdle (known : state.consumer consumer = some operation)
    (begun : operation.phase = .begun) : Alerted (state.sweepIdle consumer operation) := by
  have outstanding : operation.phase.outstanding := by
    rw [begun]
    rfl
  unfold JoinSetState.sweepIdle
  dsimp only
  cases empty : state.pendingHandles.isEmpty with
  | true =>
    exact alerted.proceed rfl rfl rfl rfl (fun _ => alerted.alone known outstanding) nofun
  | false =>
    exact alerted.register known outstanding rfl rfl (List.isEmpty_eq_false_iff.mp empty)

theorem takeFrom (known : state.consumer consumer = some operation)
    (outstanding : operation.phase.outstanding)
    (kept : ∀ result, (received result).phase.registered → operation.phase.registered ∧
      (received result).polls = operation.polls ∧
      (received result).woken = operation.woken) :
    Alerted (state.takeFrom consumer task received) := by
  unfold JoinSetState.takeFrom
  split
  · exact alerted.proceed rfl rfl rfl rfl (fun _ => alerted.alone known outstanding)
      fun registered => ⟨operation, known, kept _ registered⟩
  · exact alerted.of_tasks rfl rfl rfl id

theorem settle (known : state.consumer consumer = some operation)
    (sweeping : operation.phase = .sweeping anyPending failed []) :
    Alerted (state.settle consumer operation anyPending failed) := by
  have alone := alerted.alone known (by rw [sweeping]; rfl)
  have kept : (if anyPending then .pending else .checking :
      Phase Task Tag Value Exception).registered → ∃ content,
        state.consumer consumer = some content ∧ content.phase.registered ∧
        operation.polls = content.polls ∧ operation.woken = content.woken := by
    intro registered
    refine ⟨operation, known, ?_, rfl, rfl⟩
    rw [sweeping]
    cases anyPending
    · cases registered
    · rfl
  unfold JoinSetState.settle
  dsimp only
  split
  · exact alerted.cancelAllOnce (fun _ => alone) kept
  · exact alerted.proceed rfl rfl rfl rfl (fun _ => alone) kept

omit [DecidableEq Task] in
theorem check (known : state.consumer consumer = some operation)
    (checking : operation.phase = .checking)
    (attended : state.pendingHandles = [] → state.idleHandles = []) :
    Alerted (state.check consumer operation) := by
  unfold JoinSetState.check
  split
  · rename_i found
    have running : state.pendingHandles ≠ [] := fun empty =>
      found.elim (fun some => some empty) fun some => some (attended empty)
    exact alerted.register known (by rw [checking]; rfl) rfl rfl running
  · exact alerted.proceed rfl rfl rfl rfl nofun nofun

theorem step (attended : recheckAttended state move) (effect : Effect state move next) :
    Alerted next := by
  cases effect with
  | spawned task tag =>
    refine alerted.of_tasks rfl rfl rfl fun _ => ?_
    exact List.append_ne_nil_of_right_ne_nil _ (List.cons_ne_nil _ _)
  | cancelledTask | finished | cancelledAll => exact alerted.of_tasks rfl rfl rfl id
  | completed => exact alerted.onTaskComplete
  | woken waker => exact alerted.awaken waker
  | requested | destroyed => exact alerted.proceed rfl rfl rfl rfl nofun nofun
  | cancelled consumer operation known =>
    exact alerted.cancelAllOnce (alerted.alone known)
      fun registered => ⟨operation, known, registered, rfl, rfl⟩
  | polled => exact alerted.beginPoll attended
  | polledNext consumer operation known begun => exact alerted.pollNext known begun
  | swept consumer operation known begun => exact alerted.sweepIdle known begun
  | tookNext consumer operation task known taking =>
    exact alerted.takeFrom known (by rw [taking]; rfl) nofun
  | took consumer operation task anyPending failed rest known sweeping =>
    refine alerted.takeFrom known (by rw [sweeping]; rfl) fun result registered => ?_
    rw [sweeping]
    exact ⟨registered, rfl, rfl⟩
  | settled consumer operation anyPending failed known sweeping =>
    exact alerted.settle known sweeping
  | checked consumer operation known checking => exact alerted.check known checking attended

end Alerted

theorem alerted_of_reaches
    (reached : (joinSetMachine Task Consumer Tag Value Exception).Reaches recheckAttended state) :
    Alerted state := by
  refine reached.invariant Alerted ?_ ?_
  · intro state move next alerted attended step
    exact alerted.step attended (effect step)
  · constructor
    · intro _ _ _ _ known
      cases known
    · exact fun stored => absurd rfl stored
    · intro _ _ known
      cases known

theorem consumers_woken
    (reached : (joinSetMachine Task Consumer Tag Value Exception).Reaches recheckAttended state) :
    ConsumersWoken state := by
  have alerted := alerted_of_reaches reached
  intro consumer operation asleep
  have registered : operation.phase.registered := by
    rw [asleep.pending]
    rfl
  rcases alerted.registered consumer operation asleep.known registered with
    stored | woken | ⟨waker, flying, owner⟩
  · refine ⟨alerted.running ?_, stored⟩
    rw [stored]
    exact Option.some_ne_none _
  · rw [asleep.unwoken] at woken
    cases woken
  · exact absurd owner (asleep.grounded waker flying)

/-- A task that is spawned between the two sections of a poll, and is still running in the
second one, keeps the future awake. -/
theorem consumers_woken_late_spawn :
    ∃ (state : JoinSetState Nat (Fin 1) Nat Nat Nat) (operation : Operation Nat Nat Nat Nat),
      (joinSetMachine Nat (Fin 1) Nat Nat Nat).Reaches recheckAttended state ∧
      state.Asleep 0 operation ∧ ConsumersWoken state ∧
      state.pendingHandles = [1] := by
  have reached := (joinSetMachine Nat (Fin 1) Nat Nat Nat).reaches_exec recheckAttended
    [.request 0 .shutdown, .poll 0, .sweep 0, .spawn 1 21, .settle 0, .check 0] (by decide +kernel)
  exact ⟨_, _, reached, ⟨rfl, rfl, rfl, nofun⟩, consumers_woken reached, rfl⟩

/-- The task has completed by then: nobody is left to wake the future. -/
theorem late_completion_strands_consumer :
    ∃ (state : JoinSetState Nat (Fin 1) Nat Nat Nat) (operation : Operation Nat Nat Nat Nat),
      (joinSetMachine Nat (Fin 1) Nat Nat Nat).Reaches oneConsumer state ∧
      state.Asleep 0 operation ∧ state.pendingHandles = [] ∧ state.idleHandles = [1] := by
  have reached := (joinSetMachine Nat (Fin 1) Nat Nat Nat).reaches_exec oneConsumer
    [.request 0 .shutdown, .poll 0, .sweep 0, .spawn 1 21, .finish 1 (.value 5), .complete 1,
      .settle 0, .check 0] (by decide +kernel)
  exact ⟨_, _, reached, ⟨rfl, rfl, rfl, nofun⟩, rfl, rfl⟩

end CoroRuntime.JoinSet
