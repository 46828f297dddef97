import CoroRuntime.Foundation.Execution
import CoroRuntime.Foundation.LinkedList
import Mathlib.Data.List.Perm.Subperm

/-! # The tasks that an executor owns

`OwnedTasks` of `include/coro/detail/owned_tasks.h`: the tasks of a multi-threaded executor in
lists, one for each shard, that are linked through the tasks themselves. Around it stand those
who use it: `WorkStealingExecutor::schedule` for a spawned task, the worker that polled a task
to its end, and the thread in `Runtime::shutdown`. Each critical section of a shard's mutex is
one move, and so is each `shutdown_progress()`, which takes the shutdown mutex.
-/

namespace CoroRuntime.Ownership

open Foundation
open Function (update update_self update_of_ne update_apply)

/-- The shards, and the members of the tasks that belong to the list. -/
structure OwnedTasks (shards : Nat) (Task : Type u) where
  links : Links Task := {}
  /-- whether `owned_self` holds a reference, which is whether the task is linked -/
  ownedSelf : Task → Bool := fun _ => false
  head : Fin shards → Option Task := fun _ => none
  closed : Fin shards → Bool := fun _ => false

section Lists

variable {shards : Nat} {Task : Type u} [DecidableEq Task] (shardFor : Task → Fin shards)

namespace OwnedTasks

def insert (task : Task) (tasks : OwnedTasks shards Task) : Bool × OwnedTasks shards Task :=
  (tasks.closed (shardFor task),
  { tasks with
    links := tasks.links.pushFront (tasks.head (shardFor task)) task
    head := update tasks.head (shardFor task) (some task)
    ownedSelf := update tasks.ownedSelf task true })

/-- Also whether the task was linked, and whether the shard is closed -/
def remove (task : Task) (tasks : OwnedTasks shards Task) :
    (Bool × Bool) × OwnedTasks shards Task :=
  if tasks.ownedSelf task then
    ((true, tasks.closed (shardFor task)),
    { tasks with
      links := (tasks.links.unlink (tasks.head (shardFor task)) task).2
      head := update tasks.head (shardFor task)
        (tasks.links.unlink (tasks.head (shardFor task)) task).1
      ownedSelf := update tasks.ownedSelf task false })
  else ((false, tasks.closed (shardFor task)), tasks)

/-- One critical section of `close_and_collect()`: the tasks of the shard, at most `fuel` -/
def closeAndCollect (fuel : Nat) (shard : Fin shards) (tasks : OwnedTasks shards Task) :
    List Task × OwnedTasks shards Task :=
  (tasks.links.walk fuel (tasks.head shard),
  { tasks with closed := update tasks.closed shard true })

def isEmpty (shard : Fin shards) (tasks : OwnedTasks shards Task) : Bool :=
  (tasks.head shard).isNone

end OwnedTasks

inductive Stage
  | unborn
  /-- in `schedule()`, with what `insert()` returned -/
  | inserted (closed : Bool)
  /-- in `schedule()`, after `cancel_task()` -/
  | cancelled
  /-- in `schedule()`, after `shutdown_progress()` -/
  | announced
  /-- enqueued, waiting or polled -/
  | live
  | finished
  /-- unlinked by its worker, with what `remove()` returned -/
  | removed (closed : Bool)
  | over
  deriving DecidableEq, Repr

def Stage.scheduling : Stage → Bool
  | .inserted _ | .cancelled | .announced => true
  | _ => false

def Stage.linked : Stage → Bool
  | .inserted _ | .cancelled | .announced | .live | .finished => true
  | _ => false

inductive Phase (Task : Type u)
  | uncalled
  /-- in `close_and_collect()`, next at this shard -/
  | closing (shard : Nat)
  /-- in the loop of `begin_shutdown()` -/
  | cancelling (rest : List Task)
  | waiting
  /-- in `empty()`, next at this shard, with the shutdown mutex held -/
  | scanning (shard : Nat)
  /-- `empty()` has returned true -/
  | quiescent
  deriving DecidableEq, Repr

structure State (shards : Nat) (Task : Type u) where
  tasks : OwnedTasks shards Task := {}
  phase : Phase Task := .uncalled
  collected : List Task := []
  stage : Task → Stage := fun _ => .unborn
  /-- the task that called `schedule()`, none for a thread outside -/
  spawner : Task → Option Task := fun _ => none
  cancelTask : Task → Bool := fun _ => false
  started : List Task := []
  insertClosed : Task → Option Bool := fun _ => none
  removeClosed : Task → Option Bool := fun _ => none

/-- A thread outside spawns a task, or one task spawns another one. The other moves are
those of the thread in `schedule()`, of the worker and of the thread in `shutdown()`. -/
inductive Action (Task : Type u)
  | insert (spawner : Option Task) (task : Task)
  | schedule (task : Task)
  | finish (task : Task)
  | remove (task : Task)
  | report (task : Task)
  | shutdown
  deriving DecidableEq, Repr

namespace State

variable (state : State shards Task)

def mutexHeld : Bool :=
  match state.phase with
  | .scanning _ => true
  | _ => false

def spawning (task : Task) (state : State shards Task) : Bool :=
  state.started.any fun child =>
    (state.stage child).scheduling && state.spawner child == some task

/-- Whether somebody is able to spawn a task: a thread outside always is. -/
def canSpawn (spawner : Option Task) (state : State shards Task) : Bool :=
  match spawner with
  | none => true
  | some task => state.stage task == .live && !state.spawning task

def setStage (task : Task) (stage : Stage) (state : State shards Task) : State shards Task :=
  { state with stage := update state.stage task stage }

def insert (spawner : Option Task) (task : Task) (state : State shards Task) : State shards Task :=
  { state.setStage task (.inserted (state.tasks.insert shardFor task).1) with
    tasks := (state.tasks.insert shardFor task).2
    spawner := update state.spawner task spawner
    started := task :: state.started
    insertClosed :=
      update state.insertClosed task (some (state.tasks.insert shardFor task).1) }

def cancel (task : Task) (state : State shards Task) : State shards Task :=
  { state with cancelTask := update state.cancelTask task true }

/-- The rest of `schedule()`, which ends with `enqueue()` -/
def schedule (task : Task) (state : State shards Task) : Option (State shards Task) :=
  match state.stage task with
  | .inserted false => some (state.setStage task .live)
  | .inserted true => some ((state.setStage task .cancelled).cancel task)
  | .cancelled => if state.mutexHeld then none else some (state.setStage task .announced)
  | .announced => some (state.setStage task .live)
  | _ => none

def remove (task : Task) (state : State shards Task) : State shards Task :=
  { state.setStage task (.removed (state.tasks.remove shardFor task).1.2) with
    tasks := (state.tasks.remove shardFor task).2
    removeClosed :=
      update state.removeClosed task (some (state.tasks.remove shardFor task).1.2) }

def report (task : Task) (state : State shards Task) : Option (State shards Task) :=
  match state.stage task with
  | .removed closed =>
    if closed && state.mutexHeld then none else some (state.setStage task .over)
  | _ => none

def closeAndCollect (shard : Fin shards) (state : State shards Task) : State shards Task :=
  { state with
    tasks := (state.tasks.closeAndCollect state.started.length shard).2
    collected :=
      state.collected ++ (state.tasks.closeAndCollect state.started.length shard).1
    phase := .closing (shard + 1) }

def shutdown : Option (State shards Task) :=
  match state.phase with
  | .uncalled => some { state with phase := .closing 0 }
  | .closing shard =>
    if inside : shard < shards then some (state.closeAndCollect ⟨shard, inside⟩)
    else some { state with phase := .cancelling state.collected }
  | .cancelling (task :: rest) => some { state.cancel task with phase := .cancelling rest }
  | .cancelling [] => some { state with phase := .waiting }
  | .waiting => some { state with phase := .scanning 0 }
  | .scanning shard =>
    if inside : shard < shards then
      some { state with
        phase := if state.tasks.isEmpty ⟨shard, inside⟩ then .scanning (shard + 1)
          else .waiting }
    else some { state with phase := .quiescent }
  | .quiescent => none

def step : Action Task → Option (State shards Task)
  | .insert spawner task =>
    if state.stage task = .unborn ∧ state.canSpawn spawner then
      some (state.insert shardFor spawner task)
    else none
  | .schedule task => state.schedule task
  | .finish task =>
    if state.stage task = .live ∧ state.spawning task = false then
      some (state.setStage task .finished)
    else none
  | .remove task =>
    if state.stage task = .finished then some (state.remove shardFor task) else none
  | .report task => state.report task
  | .shutdown => state.shutdown

end State

def machine : Machine (State shards Task) (Action Task) where
  initial := {}
  step := State.step shardFor

def Phase.closed : Phase Task → Bool
  | .uncalled | .closing _ => false
  | _ => true

def onlyTasksSpawn (state : State shards Task) : Action Task → Prop
  | .insert spawner _ => state.phase.closed = true → spawner ≠ none
  | _ => True

instance (state : State shards Task) (action : Action Task) :
    Decidable (onlyTasksSpawn state action) :=
  match action with
  | .insert spawner _ =>
    inferInstanceAs (Decidable (state.phase.closed = true → spawner ≠ none))
  | .schedule _ | .finish _ | .remove _ | .report _ | .shutdown => isTrue trivial

/-! ## The links of the shards -/

/-- The links describe these lists, one for each shard. -/
structure Represents (tasks : OwnedTasks shards Task) (lists : Fin shards → List Task) :
    Prop where
  head : ∀ shard, tasks.head shard = (lists shard).head?
  chain : ∀ shard, tasks.links.Chain (lists shard)
  nodup : ∀ shard, (lists shard).Nodup
  placed : ∀ shard, ∀ task ∈ lists shard, shardFor task = shard
  owned : ∀ task, tasks.ownedSelf task = true ↔ task ∈ lists (shardFor task)

section Represents

variable {shardFor} {tasks : OwnedTasks shards Task} {lists : Fin shards → List Task}
  {task : Task}

omit [DecidableEq Task] in
theorem Represents.apart (represents : Represents shardFor tasks lists) (different : one ≠ other) :
    ∀ task ∈ lists one, task ∉ lists other := by
  intro task here there
  exact different ((represents.placed one task here).symm.trans
    (represents.placed other task there))

theorem Represents.insert (represents : Represents shardFor tasks lists)
    (new : tasks.ownedSelf task = false) :
    Represents shardFor (tasks.insert shardFor task).2
      (update lists (shardFor task) (task :: lists (shardFor task))) := by
  have absent : ∀ shard, task ∉ lists shard := by
    intro shard inside
    have here := represents.placed shard task inside
    subst here
    simp [(represents.owned task).mpr inside] at new
  have head := represents.head (shardFor task)
  constructor
  case head =>
    intro shard
    by_cases here : shard = shardFor task
    · subst here
      simp [OwnedTasks.insert]
    · simp [OwnedTasks.insert, here, represents.head shard]
  case chain =>
    intro shard
    simp only [OwnedTasks.insert, head]
    by_cases here : shard = shardFor task
    · subst here
      simpa using (represents.chain _).pushFront (represents.nodup _) (absent _)
    · simp only [update_of_ne here]
      exact (represents.chain shard).pushFront_other (absent shard)
        (represents.apart (Ne.symm here))
  case nodup =>
    intro shard
    by_cases here : shard = shardFor task
    · subst here
      simp [represents.nodup, absent]
    · simp [here, represents.nodup]
  case placed =>
    intro shard other inside
    by_cases here : shard = shardFor task
    · subst here
      simp only [update_self, List.mem_cons] at inside
      rcases inside with rfl | inside
      · rfl
      · exact represents.placed _ other inside
    · rw [update_of_ne here] at inside
      exact represents.placed shard other inside
  case owned =>
    intro other
    simp only [OwnedTasks.insert, update_apply]
    by_cases same : other = task
    · simp [same]
    · by_cases here : shardFor other = shardFor task
      · simp [same, here, represents.owned other]
      · simp [same, here, represents.owned other]

theorem Represents.remove (represents : Represents shardFor tasks lists)
    (linked : tasks.ownedSelf task = true) :
    Represents shardFor (tasks.remove shardFor task).2
      (update lists (shardFor task) ((lists (shardFor task)).erase task)) := by
  have inside := (represents.owned task).mp linked
  rcases List.append_of_mem inside with ⟨front, back, split⟩
  have chain := represents.chain (shardFor task)
  have nodup := represents.nodup (shardFor task)
  have head := represents.head (shardFor task)
  have erased : (lists (shardFor task)).erase task = front ++ back := by
    rw [split] at nodup ⊢
    have before : task ∉ front := by
      intro member
      exact (List.nodup_cons.mp (List.nodup_middle.mp nodup)).1 (by simp [member])
    rw [List.erase_append_right _ before, List.erase_cons_head]
  rw [split] at chain nodup head
  have rest := (List.nodup_cons.mp (List.nodup_middle.mp nodup))
  simp only [OwnedTasks.remove, linked, if_true, head, erased]
  constructor
  case head =>
    intro shard
    by_cases here : shard = shardFor task
    · subst here
      simpa using chain.unlink_head
    · simp [here, represents.head shard]
  case chain =>
    intro shard
    by_cases here : shard = shardFor task
    · subst here
      simpa using chain.unlink nodup
    · simp only [update_of_ne here]
      refine (represents.chain shard).unlink_other chain ?_
      rw [← split]
      exact represents.apart here
  case nodup =>
    intro shard
    by_cases here : shard = shardFor task
    · subst here
      simpa using rest.2
    · simp [here, represents.nodup]
  case placed =>
    intro shard other member
    by_cases here : shard = shardFor task
    · subst here
      rw [update_self, ← erased] at member
      exact represents.placed _ other (List.mem_of_mem_erase member)
    · rw [update_of_ne here] at member
      exact represents.placed shard other member
  case owned =>
    intro other
    simp only [update_apply]
    by_cases same : other = task
    · subst same
      simpa using rest.1
    · by_cases here : shardFor other = shardFor task
      · simp [same, here, represents.owned other, split]
      · simp [same, here, represents.owned other]

end Represents

/-- The links are those of some lists of tasks that have been inserted. -/
def WellLinked (started : List Task) (tasks : OwnedTasks shards Task) : Prop :=
  ∃ lists, Represents shardFor tasks lists ∧ ∀ shard, lists shard ⊆ started

section WellLinked

variable {shardFor} {tasks : OwnedTasks shards Task} {started : List Task} {task : Task}

omit [DecidableEq Task] in
theorem wellLinked_initial : WellLinked shardFor [] ({} : OwnedTasks shards Task) := by
  refine ⟨fun _ => [], ?_, by simp⟩
  constructor <;> simp [Links.chain_nil]

variable (linked : WellLinked shardFor started tasks)

include linked

theorem WellLinked.insert (new : tasks.ownedSelf task = false) :
    WellLinked shardFor (task :: started) (tasks.insert shardFor task).2 := by
  rcases linked with ⟨lists, represents, bounded⟩
  refine ⟨_, represents.insert new, fun shard => ?_⟩
  by_cases here : shard = shardFor task
  · subst here
    simpa using List.subset_cons_of_subset task (bounded (shardFor task))
  · simpa [here] using List.subset_cons_of_subset task (bounded shard)

theorem WellLinked.remove (owned : tasks.ownedSelf task = true) :
    WellLinked shardFor started (tasks.remove shardFor task).2 := by
  rcases linked with ⟨lists, represents, bounded⟩
  refine ⟨_, represents.remove owned, fun shard => ?_⟩
  by_cases here : shard = shardFor task
  · subst here
    simpa using List.Subset.trans (List.erase_subset ..) (bounded (shardFor task))
  · simpa [here] using bounded shard

omit [DecidableEq Task] in
theorem WellLinked.close (fuel : Nat)
    (shard : Fin shards) : WellLinked shardFor started (tasks.closeAndCollect fuel shard).2 := by
  rcases linked with ⟨lists, represents, bounded⟩
  exact ⟨lists, { represents with }, bounded⟩

omit [DecidableEq Task] in
theorem WellLinked.collected (fuel : started.length ≤ limit) (shard : Fin shards) :
    (tasks.closeAndCollect limit shard).1.Nodup ∧
      ∀ task, task ∈ (tasks.closeAndCollect limit shard).1 ↔
        shardFor task = shard ∧ tasks.ownedSelf task = true := by
  rcases linked with ⟨lists, represents, bounded⟩
  have enough : (lists shard).length ≤ limit :=
    Nat.le_trans ((represents.nodup shard).subperm (bounded shard)).length_le fuel
  simp only [OwnedTasks.closeAndCollect, represents.head,
    (represents.chain shard).walk enough]
  refine ⟨represents.nodup shard, fun task => ⟨fun inside => ?_, ?_⟩⟩
  · have here := represents.placed shard task inside
    subst here
    exact ⟨rfl, (represents.owned task).mpr inside⟩
  · rintro ⟨rfl, owned⟩
    exact (represents.owned task).mp owned

omit [DecidableEq Task] in
theorem WellLinked.unowned_of_isEmpty
    (empty : tasks.isEmpty (shardFor task) = true) : tasks.ownedSelf task = false := by
  rcases linked with ⟨lists, represents, bounded⟩
  have unlinked : lists (shardFor task) = [] := by
    simpa [OwnedTasks.isEmpty, represents.head] using empty
  have absent := (represents.owned task).not
  simpa [unlinked] using absent

omit [DecidableEq Task] in
theorem WellLinked.head_eq_none
    (unowned : ∀ task, tasks.ownedSelf task = false) (shard : Fin shards) :
    tasks.head shard = none := by
  rcases linked with ⟨lists, represents, bounded⟩
  rw [represents.head, List.head?_eq_none_iff, List.eq_nil_iff_forall_not_mem]
  intro task inside
  have here := represents.placed shard task inside
  subst here
  have owned := (represents.owned task).mpr inside
  simp [unowned] at owned

end WellLinked

end Lists

end CoroRuntime.Ownership
