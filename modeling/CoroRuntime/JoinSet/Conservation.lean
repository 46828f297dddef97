import CoroRuntime.JoinSet.Set
import Mathlib.Data.List.Nodup

/-! # Where the tasks of a join set are -/

namespace CoroRuntime.JoinSet

open Foundation
open Function (update update_self update_of_ne)

/-! ## Nodes -/

namespace TaskNode

variable {Tag Value Exception : Type} {node : TaskNode Tag Value Exception}

structure Waiting (node : TaskNode Tag Value Exception) : Prop where
  task : node.task
  tag : node.tag = some node.spawnedTag
  running : node.progress = .running → node.result = none ∧ node.exception = none
  finished : ∀ outcome, node.progress = .finished outcome → node.stored = outcome
  unnotified : ∀ outcome, node.progress ≠ .notified outcome

structure Idle (node : TaskNode Tag Value Exception) : Prop where
  completed : node.completed
  tag : node.tag = some node.spawnedTag
  notified : node.progress = .notified node.stored

/-- A node may change, but not what it stands for. -/
structure Advances (node later : TaskNode Tag Value Exception) : Prop where
  waiting : node.Waiting → later.Waiting
  idle : node.Idle → later.Idle
  notified : ∀ outcome, node.progress = .notified outcome → later.progress = .notified outcome
  tag : later.spawnedTag = node.spawnedTag

theorem Advances.refl (node : TaskNode Tag Value Exception) : node.Advances node :=
  ⟨id, id, fun _ => id, rfl⟩

theorem advances_self (content : Option (TaskNode Tag Value Exception)) :
    Option.Rel Advances content content := by
  cases content with
  | none => exact .none
  | some node => exact .some (.refl node)

theorem waiting_new (tag : Tag) : (new tag : TaskNode Tag Value Exception).Waiting :=
  ⟨rfl, rfl, fun _ => ⟨rfl, rfl⟩, nofun, nofun⟩

theorem advances_cancelRequested : node.Advances { node with cancelRequested := true } where
  waiting waiting := { waiting with }
  idle idle := ⟨idle.completed, idle.tag, idle.notified⟩
  notified _ := id
  tag := rfl

theorem advances_requestCancel : node.Advances node.requestCancel := by
  unfold requestCancel
  split
  · exact advances_cancelRequested
  · exact .refl node

theorem Waiting.finish (waiting : node.Waiting) (running : node.progress = .running)
    (outcome : Outcome Value Exception) : (node.finish outcome).Waiting := by
  rcases waiting.running running with ⟨noResult, noException⟩
  cases outcome with
  | value value =>
    refine ⟨waiting.task, waiting.tag, nofun, ?_, nofun⟩
    intro outcome same
    cases same
    simp [TaskNode.finish, stored, noException]
  | exception error =>
    refine ⟨waiting.task, waiting.tag, nofun, ?_, nofun⟩
    intro outcome same
    cases same
    rfl
  | cancelled =>
    refine ⟨waiting.task, waiting.tag, nofun, ?_, nofun⟩
    intro outcome same
    cases same
    simp [TaskNode.finish, stored, noResult, noException]

theorem advances_finish (running : node.progress = .running)
    (outcome : Outcome Value Exception) : node.Advances (node.finish outcome) := by
  have unnotified : ∀ other, node.progress ≠ .notified other := by
    intro other notified
    rw [running] at notified
    cases notified
  constructor
  · exact fun waiting => waiting.finish running outcome
  · exact fun idle => absurd idle.notified (unnotified _)
  · exact fun other notified => absurd notified (unnotified other)
  · cases outcome <;> rfl

end TaskNode

/-! ## Where the tasks are -/

variable {Task Consumer Tag Value Exception : Type} [DecidableEq Consumer]
  {state next : JoinSetState Task Consumer Tag Value Exception}

namespace JoinSetState

def takenBy (state : JoinSetState Task Consumer Tag Value Exception) (consumer : Consumer) :
    List Task :=
  (state.taken.filter (·.1 = consumer)).map (·.2)

def handedBy (state : JoinSetState Task Consumer Tag Value Exception) (consumer : Consumer) :
    List Task :=
  (state.handedOut.filter (·.1 = consumer)).map (·.2.1)

def resultsOf (state : JoinSetState Task Consumer Tag Value Exception) (consumer : Consumer) :
    List (JoinResult Tag Value Exception) :=
  (state.handedOut.filter (·.1 = consumer)).map (·.2.2)

theorem mem_takenBy {consumer : Consumer} :
    task ∈ state.takenBy consumer ↔ (consumer, task) ∈ state.taken := by
  simp [takenBy]

theorem mem_handedBy {consumer : Consumer} :
    task ∈ state.handedBy consumer ↔ ∃ result, (consumer, task, result) ∈ state.handedOut := by
  simp [handedBy]

def toProcess (state : JoinSetState Task Consumer Tag Value Exception) (consumer : Consumer) :
    List Task :=
  match state.consumer consumer with
  | some operation => operation.phase.toProcess
  | none => []

end JoinSetState

section Operations

variable {Task Tag Value Exception : Type} (operation : Operation Task Tag Value Exception)

theorem Operation.toProcess_of_destroyable (outside : operation.destroyable) :
    operation.phase.toProcess = [] := by
  unfold Operation.destroyable at outside
  split at outside <;> simp_all [Phase.toProcess]

theorem Operation.toProcess_of_pollable (outside : operation.pollable) :
    operation.phase.toProcess = [] := by
  unfold Operation.pollable at outside
  split at outside <;> simp_all [Phase.toProcess]

end Operations

structure Conserved (state : JoinSetState Task Consumer Tag Value Exception) : Prop where
  nodup : (state.pendingHandles ++ state.recorded).Nodup
  spawned : ∀ task, task ∈ state.pendingHandles ++ state.recorded ↔ (state.node task).isSome
  order : state.recorded = state.taken.map (·.2) ++ state.idleHandles
  processed : ∀ consumer,
    state.handedBy consumer ++ state.toProcess consumer = state.takenBy consumer
  waiting : ∀ task ∈ state.pendingHandles, ∀ node, state.node task = some node → node.Waiting
  idle : ∀ task ∈ state.recorded, task ∉ state.handedOut.map (·.2.1) →
    ∀ node, state.node task = some node → node.Idle
  handed : ∀ consumer task result, (consumer, task, result) ∈ state.handedOut →
    ∃ node, state.node task = some node ∧ node.progress = .notified result.outcome ∧
      result.tag = some node.spawnedTag
  once : (state.handedOut.map (·.2.1)).Nodup
  intact : state.failed = false

/-! ### What a move keeps -/

namespace Conserved

theorem of_nodes (conserved : Conserved state)
    (pending : next.pendingHandles = state.pendingHandles)
    (idle : next.idleHandles = state.idleHandles) (recorded : next.recorded = state.recorded)
    (taken : next.taken = state.taken) (handedOut : next.handedOut = state.handedOut)
    (failed : next.failed = state.failed)
    (toProcess : ∀ consumer, next.toProcess consumer = state.toProcess consumer)
    (nodes : ∀ task, Option.Rel TaskNode.Advances (state.node task) (next.node task)) :
    Conserved next := by
  have advanced : ∀ {task later}, next.node task = some later →
      ∃ node, state.node task = some node ∧ node.Advances later := by
    intro task later found
    have related := nodes task
    rw [found] at related
    cases present : state.node task with
    | none =>
      rw [present] at related
      cases related
    | some node =>
      rw [present] at related
      cases related with
      | some advances => exact ⟨node, rfl, advances⟩
  constructor
  · rw [pending, recorded]
    exact conserved.nodup
  · intro task
    rw [pending, recorded, conserved.spawned]
    have related := nodes task
    generalize state.node task = before at related
    generalize next.node task = after at related
    cases related <;> rfl
  · rw [recorded, taken, idle]
    exact conserved.order
  · intro consumer
    rw [toProcess]
    simp only [JoinSetState.handedBy, JoinSetState.takenBy, handedOut, taken]
    exact conserved.processed consumer
  · intro task member later found
    rw [pending] at member
    rcases advanced found with ⟨node, present, advances⟩
    exact advances.waiting (conserved.waiting task member node present)
  · intro task member unhanded later found
    rw [recorded] at member
    rw [handedOut] at unhanded
    rcases advanced found with ⟨node, present, advances⟩
    exact advances.idle (conserved.idle task member unhanded node present)
  · intro consumer task result member
    rw [handedOut] at member
    rcases conserved.handed consumer task result member with ⟨node, present, notified, tag⟩
    have related := nodes task
    rw [present] at related
    cases found : next.node task with
    | none =>
      rw [found] at related
      cases related
    | some later =>
      rw [found] at related
      cases related with
      | some advances =>
        exact ⟨later, rfl, advances.notified _ notified, by rw [advances.tag, tag]⟩
  · rw [handedOut]
    exact conserved.once
  · rw [failed]
    exact conserved.intact

omit [DecidableEq Consumer] in
theorem toProcess_eq (known : state.consumer consumer = some operation) :
    state.toProcess consumer = operation.phase.toProcess := by
  simp only [JoinSetState.toProcess, known]

theorem toProcess_update
    (consumers : next.consumer = update state.consumer consumer (some operation)) :
    next.toProcess other =
      if other = consumer then operation.phase.toProcess else state.toProcess other := by
  unfold JoinSetState.toProcess
  rw [consumers]
  by_cases same : other = consumer
  · subst same
    rw [update_self, if_pos rfl]
  · rw [update_of_ne same, if_neg same]

variable (conserved : Conserved state)

include conserved

theorem setConsumer (same : operation.phase.toProcess = state.toProcess consumer) :
    Conserved (state.setConsumer consumer operation) := by
  refine conserved.of_nodes rfl rfl rfl rfl rfl rfl ?_ (fun _ => TaskNode.advances_self _)
  intro other
  rw [toProcess_update rfl]
  split
  · rename_i equal
    rw [equal, same]
  · rfl

theorem notified (member : task ∈ state.recorded) (found : state.node task = some node) :
    ∃ outcome, node.progress = .notified outcome := by
  by_cases handed : task ∈ state.handedOut.map (·.2.1)
  · rcases List.mem_map.mp handed with ⟨⟨consumer, _, result⟩, entry, same⟩
    subst same
    rcases conserved.handed consumer _ result entry with ⟨_, found', notified, _⟩
    rw [found] at found'
    cases found'
    exact ⟨_, notified⟩
  · exact ⟨_, (conserved.idle task member handed node found).notified⟩

theorem popped (tasks : List Task) (free : state.toProcess consumer = [])
    (holds : operation.phase.toProcess = tasks)
    (idle : state.idleHandles = tasks ++ next.idleHandles)
    (taken : next.taken = state.taken ++ tasks.map (consumer, ·))
    (consumers : next.consumer = update state.consumer consumer (some operation))
    (pending : next.pendingHandles = state.pendingHandles)
    (recorded : next.recorded = state.recorded) (handedOut : next.handedOut = state.handedOut)
    (failed : next.failed = state.failed) (nodes : next.node = state.node) : Conserved next := by
  constructor
  · rw [pending, recorded]
    exact conserved.nodup
  · rw [pending, recorded, nodes]
    exact conserved.spawned
  · rw [recorded, taken, conserved.order, idle]
    simp [Function.comp_def]
  · intro other
    have processed := conserved.processed other
    simp only [JoinSetState.handedBy, JoinSetState.takenBy, handedOut, taken,
      toProcess_update consumers, List.filter_append, List.map_append] at processed ⊢
    by_cases same : other = consumer
    · subst same
      rw [free, List.append_nil] at processed
      rw [if_pos rfl, holds, processed]
      have all : (tasks.map (other, ·)).filter (fun entry => decide (entry.1 = other)) =
          tasks.map (other, ·) := by
        simp [List.filter_eq_self]
      rw [all]
      simp [Function.comp_def]
    · have none :
          (tasks.map (consumer, ·)).filter (fun entry => decide (entry.1 = other)) = [] := by
        simp [List.filter_eq_nil_iff, Ne.symm same]
      rw [if_neg same, none, processed, List.map_nil, List.append_nil]
  · rw [pending, nodes]
    exact conserved.waiting
  · rw [recorded, handedOut, nodes]
    exact conserved.idle
  · rw [handedOut, nodes]
    exact conserved.handed
  · rw [handedOut]
    exact conserved.once
  · rw [failed]
    exact conserved.intact

theorem taken_of_handed (entry : (consumer, task, result) ∈ state.handedOut) :
    (consumer, task) ∈ state.taken := by
  rw [← JoinSetState.mem_takenBy, ← conserved.processed]
  exact List.mem_append_left _ (JoinSetState.mem_handedBy.mpr ⟨result, entry⟩)

theorem unhanded (holds : state.toProcess consumer = task :: rest) :
    task ∈ state.recorded ∧ task ∉ state.handedOut.map (·.2.1) := by
  have processed := conserved.processed consumer
  rw [holds] at processed
  have taken : (consumer, task) ∈ state.taken := by
    rw [← JoinSetState.mem_takenBy, ← processed]
    exact List.mem_append_right _ (List.mem_cons_self ..)
  have nodup : (state.taken.map (·.2)).Nodup := by
    have recorded := (List.nodup_append.mp conserved.nodup).2.1
    rw [conserved.order] at recorded
    exact (List.nodup_append.mp recorded).1
  constructor
  · rw [conserved.order]
    exact List.mem_append_left _ (List.mem_map.mpr ⟨_, taken, rfl⟩)
  · intro handed
    rcases List.mem_map.mp handed with ⟨⟨other, task, result⟩, entry, rfl⟩
    -- two consumers cannot have popped one node
    cases List.inj_on_of_nodup_map nodup taken (conserved.taken_of_handed entry) rfl
    have own : (state.takenBy consumer).Nodup :=
      nodup.sublist (List.filter_sublist.map _)
    rw [← processed] at own
    refine (List.nodup_append.mp own).2.2 task ?_ task (List.mem_cons_self ..) rfl
    exact JoinSetState.mem_handedBy.mpr ⟨result, entry⟩

theorem of_waker : Conserved { state with consumerWaker := waker } :=
  conserved.of_nodes rfl rfl rfl rfl rfl rfl (fun _ => rfl) fun _ => TaskNode.advances_self _

theorem awaken (waker : Consumer × Nat) : Conserved (state.awaken waker) := by
  refine conserved.of_nodes rfl rfl rfl rfl rfl rfl ?_ fun _ => TaskNode.advances_self _
  intro consumer
  simp only [JoinSetState.toProcess, JoinSetState.awaken]
  split_ifs
  · cases state.consumer consumer <;> rfl
  · rfl

theorem pollNext (free : state.toProcess consumer = []) :
    Conserved (state.pollNext consumer operation) := by
  unfold JoinSetState.pollNext
  split
  · rename_i task rest idle
    exact conserved.popped [task] free rfl idle rfl rfl rfl rfl rfl rfl rfl
  · split
    · have waits : Conserved (state.setConsumer consumer { operation with phase := .pending }) :=
        conserved.setConsumer free.symm
      exact waits.of_waker
    · exact conserved.setConsumer free.symm

theorem check (free : state.toProcess consumer = []) :
    Conserved (state.check consumer operation) := by
  unfold JoinSetState.check
  split
  · have waits : Conserved (state.setConsumer consumer { operation with phase := .pending }) :=
      conserved.setConsumer free.symm
    exact waits.of_waker
  · exact conserved.setConsumer free.symm

variable [DecidableEq Task]

theorem cancelAll : Conserved state.cancelAll := by
  refine conserved.of_nodes rfl rfl rfl rfl rfl rfl (fun _ => rfl) ?_
  intro task
  simp only [JoinSetState.cancelAll]
  split
  · cases state.node task with
    | none => exact .none
    | some node => exact .some TaskNode.advances_requestCancel
  · exact TaskNode.advances_self _

theorem cancelAllOnce (same : phase.toProcess = state.toProcess consumer) :
    Conserved (state.cancelAllOnce consumer operation phase) := by
  unfold JoinSetState.cancelAllOnce
  split
  · exact conserved.setConsumer same
  · exact conserved.cancelAll.setConsumer same

theorem setNode (found : state.node task = some node) (advances : node.Advances later) :
    Conserved (state.setNode task later) := by
  refine conserved.of_nodes rfl rfl rfl rfl rfl rfl (fun _ => rfl) ?_
  intro other
  simp only [JoinSetState.setNode]
  by_cases same : other = task
  · subst same
    rw [update_self, found]
    exact .some advances
  · rw [update_of_ne same]
    exact TaskNode.advances_self _

theorem spawn (fresh : state.node task = none) (tag : Tag) : Conserved (state.spawn task tag) := by
  have absent : task ∉ state.pendingHandles ++ state.recorded := by
    rw [conserved.spawned, fresh]
    exact nofun
  rw [List.mem_append, not_or] at absent
  have others : ∀ {other : Task}, other ∈ state.pendingHandles ++ state.recorded →
      (state.spawn task tag).node other = state.node other := by
    intro other member
    apply update_of_ne
    rintro rfl
    exact not_or.mpr absent (List.mem_append.mp member)
  constructor
  · rw [show (state.spawn task tag).pendingHandles = state.pendingHandles ++ [task] from rfl,
      show (state.spawn task tag).recorded = state.recorded from rfl, List.append_assoc]
    have perm : (state.pendingHandles ++ ([task] ++ state.recorded)).Perm
        (task :: (state.pendingHandles ++ state.recorded)) := List.perm_middle
    rw [perm.nodup_iff, List.nodup_cons, List.mem_append]
    exact ⟨not_or.mpr absent, conserved.nodup⟩
  · intro other
    have members : other ∈ (state.spawn task tag).pendingHandles ++ (state.spawn task tag).recorded
        ↔ other = task ∨ other ∈ state.pendingHandles ++ state.recorded := by
      simp only [JoinSetState.spawn, JoinSetState.setNode, List.mem_append, List.mem_singleton]
      rw [or_right_comm, or_comm]
    rw [members]
    by_cases same : other = task
    · subst same
      simp [JoinSetState.spawn, JoinSetState.setNode]
    · simp only [same, false_or, conserved.spawned, JoinSetState.spawn, JoinSetState.setNode,
        update_of_ne same]
  · exact conserved.order
  · exact conserved.processed
  · intro other member node found
    rcases List.mem_append.mp member with member | member
    · rw [others (List.mem_append_left _ member)] at found
      exact conserved.waiting other member node found
    · cases List.mem_singleton.mp member
      simp only [JoinSetState.spawn, JoinSetState.setNode, update_self] at found
      cases found
      exact TaskNode.waiting_new tag
  · intro other member unhanded node found
    rw [others (List.mem_append_right _ member)] at found
    exact conserved.idle other member unhanded node found
  · intro consumer other result entry
    rcases conserved.handed consumer other result entry with ⟨node, found, handed⟩
    have known : other ∈ state.pendingHandles ++ state.recorded := by
      rw [conserved.spawned, found]
      rfl
    exact ⟨node, (others known).trans found, handed⟩
  · exact conserved.once
  · exact conserved.intact

theorem onTaskComplete (found : state.node task = some node)
    (finished : node.progress = .finished outcome) :
    Conserved (state.onTaskComplete task node outcome) := by
  have known : task ∈ state.pendingHandles ++ state.recorded := by
    rw [conserved.spawned, found]
    rfl
  have unrecorded : task ∉ state.recorded := by
    intro member
    rcases conserved.notified member found with ⟨_, notified⟩
    rw [finished] at notified
    cases notified
  have pending := (List.mem_append.mp known).resolve_right unrecorded
  have waiting := conserved.waiting task pending node found
  have perm : (state.pendingHandles.erase task ++ (state.recorded ++ [task])).Perm
      (state.pendingHandles ++ state.recorded) := by
    rw [← List.append_assoc]
    refine List.perm_append_singleton task _ |>.trans ?_
    exact (List.perm_cons_erase pending).symm.append_right _
  have others : ∀ {other : Task} {later : TaskNode Tag Value Exception}, other ≠ task →
      update state.node task (some later) other = state.node other :=
    fun different => update_of_ne different ..
  unfold JoinSetState.onTaskComplete
  rw [if_pos waiting.task]
  constructor
  · exact perm.nodup_iff.mpr conserved.nodup
  · intro other
    rw [perm.mem_iff, conserved.spawned]
    by_cases same : other = task
    · subst same
      simp [JoinSetState.setNode, found]
    · simp only [JoinSetState.setNode, others same]
  · simp only [conserved.order, List.append_assoc, JoinSetState.setNode]
  · exact conserved.processed
  · intro other member later found'
    have nodup := (List.nodup_append.mp conserved.nodup).1
    rcases nodup.mem_erase_iff.mp member with ⟨different, member⟩
    exact conserved.waiting other member later ((others different).symm.trans found')
  · intro other member unhanded later found'
    rcases List.mem_append.mp member with member | member
    · have different : other ≠ task := fun same => unrecorded (same ▸ member)
      exact conserved.idle other member unhanded later ((others different).symm.trans found')
    · cases List.mem_singleton.mp member
      simp only [JoinSetState.setNode, update_self] at found'
      cases found'
      exact ⟨rfl, waiting.tag, congrArg _ (waiting.finished outcome finished).symm⟩
  · intro consumer other result entry
    rcases conserved.handed consumer other result entry with ⟨later, found', notified, tag⟩
    have different : other ≠ task := by
      rintro rfl
      rw [found] at found'
      cases found'
      rw [finished] at notified
      cases notified
    exact ⟨later, (others different).trans found', notified, tag⟩
  · exact conserved.once
  · exact conserved.intact

theorem takeFrom (holds : state.toProcess consumer = task :: rest)
    (remains : ∀ result, (received result).phase.toProcess = rest) :
    Conserved (state.takeFrom consumer task received) := by
  rcases conserved.unhanded holds with ⟨recorded, unhanded⟩
  have present : (state.node task).isSome :=
    (conserved.spawned task).mp (List.mem_append_right _ recorded)
  rcases Option.isSome_iff_exists.mp present with ⟨node, found⟩
  have idle := conserved.idle task recorded unhanded node found
  have others : ∀ {other : Task} {later : TaskNode Tag Value Exception}, other ≠ task →
      update state.node task (some later) other = state.node other :=
    fun different => update_of_ne different ..
  have unpending : task ∉ state.pendingHandles := fun pending =>
    (List.nodup_append.mp conserved.nodup).2.2 task pending task recorded rfl
  simp only [JoinSetState.takeFrom, found, Option.bind_some, TaskNode.takeResult, idle.completed,
    if_true]
  constructor
  · exact conserved.nodup
  · intro other
    refine (conserved.spawned other).trans ?_
    simp only [JoinSetState.setNode, JoinSetState.setConsumer]
    by_cases same : other = task
    · subst same
      simp [found]
    · rw [others same]
  · exact conserved.order
  · intro other
    have processed := conserved.processed other
    rw [toProcess_update rfl]
    by_cases same : other = consumer
    · subst same
      rw [if_pos rfl, remains]
      rw [holds] at processed
      simpa [JoinSetState.handedBy, JoinSetState.takenBy, JoinSetState.setNode,
        JoinSetState.setConsumer] using processed
    · rw [if_neg same]
      simpa [JoinSetState.handedBy, JoinSetState.takenBy, JoinSetState.setNode,
        JoinSetState.setConsumer, JoinSetState.toProcess, Ne.symm same] using processed
  · intro other member later found'
    have different : other ≠ task := fun same => unpending (same ▸ member)
    exact conserved.waiting other member later ((others different).symm.trans found')
  · intro other member unhanded' later found'
    simp only [List.map_append, List.map_singleton, List.mem_append, List.mem_singleton,
      not_or] at unhanded'
    exact conserved.idle other member unhanded'.1 later
      ((others unhanded'.2).symm.trans found')
  · intro other task' result entry
    rcases List.mem_append.mp entry with earlier | last
    · rcases conserved.handed other task' result earlier with ⟨later, found', notified, tag⟩
      have different : task' ≠ task := by
        rintro rfl
        exact unhanded (List.mem_map.mpr ⟨(other, task', result), earlier, rfl⟩)
      exact ⟨later, (others different).trans found', notified, tag⟩
    · cases List.mem_singleton.mp last
      exact ⟨_, update_self .., idle.notified, idle.tag⟩
  · simp only [List.map_append, List.map_singleton]
    rw [(List.perm_append_singleton _ _).nodup_iff, List.nodup_cons]
    exact ⟨unhanded, conserved.once⟩
  · exact conserved.intact

theorem beginPoll (free : state.toProcess consumer = []) :
    Conserved (state.beginPoll consumer operation) := by
  unfold JoinSetState.beginPoll
  dsimp only
  split
  · exact conserved.cancelAllOnce free.symm
  · exact conserved.setConsumer free.symm

theorem settle (free : state.toProcess consumer = []) :
    Conserved (state.settle consumer operation anyPending failed) := by
  have none : (if anyPending then .pending else .checking :
      Phase Task Tag Value Exception).toProcess = state.toProcess consumer := by
    rw [free]
    cases anyPending <;> rfl
  unfold JoinSetState.settle
  dsimp only
  split
  · exact conserved.cancelAllOnce none
  · exact conserved.setConsumer none

theorem step (effect : Effect state move next) : Conserved next := by
  cases effect with
  | spawned task tag fresh => exact conserved.spawn fresh tag
  | cancelledTask task node found =>
    exact conserved.setNode found TaskNode.advances_cancelRequested
  | finished task outcome node found running =>
    exact conserved.setNode found (TaskNode.advances_finish running outcome)
  | completed task outcome node found finished => exact conserved.onTaskComplete found finished
  | woken waker => exact conserved.awaken waker
  | cancelledAll => exact conserved.cancelAll
  | requested consumer request fresh =>
    apply conserved.setConsumer
    simp only [JoinSetState.toProcess, fresh]
    rfl
  | cancelled consumer operation known =>
    exact conserved.cancelAllOnce (toProcess_eq known).symm
  | destroyed consumer operation known outside =>
    apply conserved.setConsumer
    rw [toProcess_eq known, operation.toProcess_of_destroyable outside]
    rfl
  | polled consumer operation known outside =>
    apply conserved.beginPoll
    rw [toProcess_eq known, operation.toProcess_of_pollable outside]
  | polledNext consumer operation known begun =>
    apply conserved.pollNext
    rw [toProcess_eq known, begun]
    rfl
  | swept consumer operation known begun =>
    have free : state.toProcess consumer = [] := by
      rw [toProcess_eq known, begun]
      rfl
    exact conserved.popped _ free rfl (List.append_nil _).symm rfl rfl rfl rfl rfl rfl rfl
  | tookNext consumer operation task known taking =>
    have holds : state.toProcess consumer = [task] := by
      rw [toProcess_eq known, taking]
      rfl
    exact conserved.takeFrom holds fun _ => rfl
  | took consumer operation task anyPending failed rest known sweeping =>
    have holds : state.toProcess consumer = task :: rest := by
      rw [toProcess_eq known, sweeping]
      rfl
    exact conserved.takeFrom holds fun _ => rfl
  | settled consumer operation anyPending failed known sweeping =>
    have free : state.toProcess consumer = [] := by
      rw [toProcess_eq known, sweeping]
      rfl
    exact conserved.settle free
  | checked consumer operation known checking =>
    have free : state.toProcess consumer = [] := by
      rw [toProcess_eq known, checking]
      rfl
    exact conserved.check free

end Conserved

end CoroRuntime.JoinSet
