import CoroRuntime.Shutdown.OwnedTasks

/-! # No task is lost at shutdown

The shards are closed one after the other, and `empty()` looks at them one after the other.
Still, each task that is spawned around a shutdown is cancelled from one side, and the answer
that no task is left is final.
-/

namespace CoroRuntime.Ownership

open Foundation
open Function (update_self update_apply)

def ExactlyOne (one two three : Prop) : Prop :=
  (one ∧ ¬two ∧ ¬three) ∨ (¬one ∧ two ∧ ¬three) ∨ (¬one ∧ ¬two ∧ three)

variable {shards : Nat} {Task : Type u} [DecidableEq Task] (shardFor : Task → Fin shards)

/-- The tasks that `begin_shutdown()` is going to cancel -/
def State.toCancel (state : State shards Task) : List Task :=
  match state.phase with
  | .closing _ => state.collected
  | .cancelling rest => rest
  | _ => []

/-- A task whose shard is closed is known to exactly one side, and is cancelled by it unless
it was removed before. -/
structure Divided (state : State shards Task) (task : Task) : Prop where
  once : state.collected.count task ≤ 1
  fate : ExactlyOne (task ∈ state.collected) (state.insertClosed task = some true)
    (state.removeClosed task = some false)
  cancelled : state.removeClosed task = some false ∨ state.cancelTask task = true ∨
    task ∈ state.toCancel ∨ state.stage task = .inserted true

def State.Unlinked (state : State shards Task) : Prop :=
  (∀ shard, state.tasks.head shard = none) ∧ ∀ task, state.tasks.ownedSelf task = false

/-! ## What holds for each task -/

structure Sound (state : State shards Task) (task : Task) : Prop where
  owned : state.tasks.ownedSelf task = (state.stage task).linked
  started : state.stage task ≠ .unborn → task ∈ state.started
  inserted : state.insertClosed task ≠ none ↔ state.stage task ≠ .unborn
  answered : ∀ closed, state.stage task = .inserted closed →
    state.insertClosed task = some closed
  removed : state.removeClosed task ≠ none ↔
    state.stage task ≠ .unborn ∧ (state.stage task).linked = false
  unclosed : state.tasks.closed (shardFor task) = false →
    state.insertClosed task ≠ some true ∧ task ∉ state.collected ∧
      state.removeClosed task ≠ some true
  divided : state.tasks.closed (shardFor task) = true → state.stage task ≠ .unborn →
    ExactlyOne (task ∈ state.collected) (state.insertClosed task = some true)
      (state.removeClosed task = some false)
  born : state.insertClosed task = some true →
    state.cancelTask task = true ∨ state.stage task = .inserted true
  collected : task ∈ state.collected → state.stage task ≠ .unborn
  cancelled : task ∈ state.collected → state.cancelTask task = true ∨ task ∈ state.toCancel

def Phase.hasClosed (shard : Nat) : Phase Task → Bool
  | .uncalled => false
  | .closing next => shard < next
  | _ => true

structure Inv (state : State shards Task) : Prop where
  linked : WellLinked shardFor state.started state.tasks
  closed : ∀ shard : Fin shards, state.tasks.closed shard = state.phase.hasClosed shard
  nodup : state.collected.Nodup
  sound : ∀ task, Sound shardFor state task

section Moves

variable {shardFor} {state next : State shards Task} {task other : Task}

omit [DecidableEq Task] in
theorem Sound.frame (sound : Sound shardFor state task)
    (same : (next.tasks.ownedSelf task, next.stage task, next.insertClosed task,
        next.removeClosed task, next.tasks.closed (shardFor task)) =
      (state.tasks.ownedSelf task, state.stage task, state.insertClosed task,
        state.removeClosed task, state.tasks.closed (shardFor task)))
    (collected : task ∈ next.collected ↔ task ∈ state.collected)
    (started : task ∈ state.started → task ∈ next.started)
    (cancelled : state.cancelTask task = true → next.cancelTask task = true)
    (toCancel : task ∈ state.toCancel → next.cancelTask task = true ∨ task ∈ next.toCancel) :
    Sound shardFor next task := by
  simp only [Prod.mk.injEq] at same
  rcases same with ⟨owned, stage, inserted, removed, closed⟩
  constructor
  case owned => rw [owned, stage]; exact sound.owned
  case started => rw [stage]; exact fun born => started (sound.started born)
  case inserted => rw [inserted, stage]; exact sound.inserted
  case answered => rw [inserted, stage]; exact sound.answered
  case removed => rw [removed, stage]; exact sound.removed
  case unclosed => rw [closed, inserted, collected, removed]; exact sound.unclosed
  case divided => rw [closed, stage, inserted, collected, removed]; exact sound.divided
  case born =>
    rw [inserted, stage]
    exact fun is => (sound.born is).imp_left cancelled
  case collected => rw [collected, stage]; exact sound.collected
  case cancelled =>
    rw [collected]
    intro member
    rcases sound.cancelled member with is | is
    · exact .inl (cancelled is)
    · exact toCancel is

variable (inv : Inv shardFor state)

include inv

omit [DecidableEq Task] in
theorem Inv.setPhase (phase : Phase Task)
    (closed : ∀ shard : Fin shards, phase.hasClosed shard = state.phase.hasClosed shard)
    (toCancel : ∀ task, task ∈ state.toCancel →
      task ∈ State.toCancel { state with phase := phase }) :
    Inv shardFor { state with phase := phase } where
  linked := inv.linked
  closed shard := (inv.closed shard).trans (closed shard).symm
  nodup := inv.nodup
  sound task := (inv.sound task).frame rfl .rfl id id fun member => .inr (toCancel task member)

omit inv in
/-- A task that stays linked, or stays unlinked, goes on. One that was born cancelled has its
flag by then. -/
theorem Sound.setStage (sound : Sound shardFor state task) (born : state.stage task ≠ .unborn)
    (linked : stage.linked = (state.stage task).linked)
    (later : stage ≠ .unborn ∧ ∀ closed, stage ≠ .inserted closed)
    (cancelled : state.stage task = .inserted true → state.cancelTask task = true) :
    Sound shardFor (state.setStage task stage) task := by
  have now : (state.setStage task stage).stage task = stage := update_self ..
  constructor
  case owned => rw [now, linked]; exact sound.owned
  case started => exact fun _ => sound.started born
  case inserted => rw [now]; exact iff_of_true (sound.inserted.mpr born) later.1
  case answered => rw [now]; exact fun closed is => absurd is (later.2 closed)
  case removed =>
    rw [now, linked]
    refine sound.removed.trans (and_congr_left fun _ => iff_of_true born later.1)
  case unclosed => exact sound.unclosed
  case divided => exact fun closed _ => sound.divided closed born
  case born =>
    intro is
    rcases sound.born is with flagged | waiting
    · exact .inl flagged
    · exact .inl (cancelled waiting)
  case collected => rw [now]; exact fun _ => later.1
  case cancelled => exact sound.cancelled

theorem Inv.setStage (born : state.stage task ≠ .unborn)
    (linked : stage.linked = (state.stage task).linked)
    (later : stage ≠ .unborn ∧ ∀ closed, stage ≠ .inserted closed)
    (cancelled : state.stage task = .inserted true → state.cancelTask task = true) :
    Inv shardFor (state.setStage task stage) where
  linked := inv.linked
  closed := inv.closed
  nodup := inv.nodup
  sound other := by
    by_cases same : other = task
    · subst same
      exact (inv.sound other).setStage born linked later cancelled
    · exact (inv.sound other).frame (by simp [State.setStage, same]) .rfl id id .inr

theorem Inv.cancel (task : Task) : Inv shardFor (state.cancel task) where
  linked := inv.linked
  closed := inv.closed
  nodup := inv.nodup
  sound other := by
    refine (inv.sound other).frame rfl .rfl id (fun is => ?_) .inr
    simp [State.cancel, update_apply, is]

omit inv in
theorem Sound.insert (sound : Sound shardFor state task) (spawner : Option Task)
    (unborn : state.stage task = .unborn) :
    Sound shardFor (state.insert shardFor spawner task) task := by
  have closed : (state.tasks.insert shardFor task).1 = state.tasks.closed (shardFor task) := rfl
  have absent : task ∉ state.collected := fun member => sound.collected member unborn
  have unremoved : state.removeClosed task = none := by
    simpa [unborn] using sound.removed
  have stage : (state.insert shardFor spawner task).stage task =
      .inserted (state.tasks.closed (shardFor task)) := update_self ..
  have inserted : (state.insert shardFor spawner task).insertClosed task =
      some (state.tasks.closed (shardFor task)) := update_self ..
  constructor
  case owned =>
    rw [stage]
    exact update_self ..
  case started => exact fun _ => List.mem_cons_self
  case inserted => simp [stage, inserted]
  case answered =>
    rw [stage, inserted]
    rintro _ ⟨⟩
    rfl
  case removed =>
    rw [stage]
    simp [State.insert, State.setStage, unremoved, Stage.linked]
  case unclosed =>
    intro isOpen
    refine ⟨?_, absent, ?_⟩
    · rw [inserted]
      exact fun is => Bool.noConfusion (isOpen.symm.trans (Option.some.inj is))
    · simp [State.insert, State.setStage, unremoved]
  case divided =>
    intro isClosed _
    refine .inr (.inl ⟨absent, inserted.trans (congrArg some isClosed), ?_⟩)
    simp [State.insert, State.setStage, unremoved]
  case born =>
    rw [stage, inserted]
    intro is
    exact .inr (congrArg _ (Option.some.inj is))
  case collected | cancelled => exact fun member => absurd member absent

theorem Inv.insert (spawner : Option Task) (unborn : state.stage task = .unborn) :
    Inv shardFor (state.insert shardFor spawner task) where
  linked := by
    refine inv.linked.insert ?_
    rw [(inv.sound task).owned, unborn]
    rfl
  closed := inv.closed
  nodup := inv.nodup
  sound other := by
    by_cases same : other = task
    · subst same
      exact (inv.sound other).insert spawner unborn
    · refine (inv.sound other).frame ?_ .rfl (List.mem_cons_of_mem task) id .inr
      simp [State.insert, State.setStage, OwnedTasks.insert, same]

omit inv in
/-- Whether it counts as removed in time is what its worker is told. -/
theorem Sound.remove (sound : Sound shardFor state task)
    (finished : state.stage task = .finished) (owned : state.tasks.ownedSelf task = true) :
    Sound shardFor (state.remove shardFor task) task := by
  have born : state.stage task ≠ .unborn := by simp [finished]
  have unremoved : state.removeClosed task = none := by
    simpa [finished, Stage.linked] using sound.removed
  have stage : (state.remove shardFor task).stage task =
      .removed (state.tasks.closed (shardFor task)) := by
    simp [State.remove, State.setStage, OwnedTasks.remove, owned]
  have removed : (state.remove shardFor task).removeClosed task =
      some (state.tasks.closed (shardFor task)) := by
    simp [State.remove, OwnedTasks.remove, owned]
  have closed : (state.remove shardFor task).tasks.closed (shardFor task) =
      state.tasks.closed (shardFor task) := by
    simp [State.remove, OwnedTasks.remove, owned]
  constructor
  case owned =>
    rw [stage]
    simp [Stage.linked, State.remove, OwnedTasks.remove, owned]
  case started => exact fun _ => sound.started born
  case inserted =>
    rw [stage]
    exact iff_of_true (sound.inserted.mpr born) (by simp)
  case answered => simp [stage]
  case removed => simp [stage, removed, Stage.linked]
  case unclosed =>
    rw [closed, removed]
    intro isOpen
    have before := sound.unclosed isOpen
    exact ⟨before.1, before.2.1, by simp [isOpen]⟩
  case divided =>
    rw [closed, removed]
    intro isClosed _
    have before := sound.divided isClosed born
    rw [isClosed]
    rcases before with ⟨is, not, _⟩ | ⟨not, is, _⟩ | ⟨_, _, is⟩
    · exact .inl ⟨is, not, by simp⟩
    · exact .inr (.inl ⟨not, is, by simp⟩)
    · simp [unremoved] at is
  case born =>
    intro is
    rcases sound.born is with flagged | waiting
    · exact .inl flagged
    · simp [finished] at waiting
  case collected => simp [stage]
  case cancelled => exact sound.cancelled

theorem Inv.remove (finished : state.stage task = .finished) :
    Inv shardFor (state.remove shardFor task) := by
  have owned : state.tasks.ownedSelf task = true := by
    rw [(inv.sound task).owned, finished]
    rfl
  have closed : (state.tasks.remove shardFor task).2.closed = state.tasks.closed := by
    simp [OwnedTasks.remove, owned]
  constructor
  case linked => exact inv.linked.remove owned
  case closed =>
    intro shard
    exact (congrFun closed shard).trans (inv.closed shard)
  case nodup => exact inv.nodup
  case sound =>
    intro other
    by_cases same : other = task
    · subst same
      exact (inv.sound other).remove finished owned
    · refine (inv.sound other).frame ?_ .rfl id id .inr
      simp [State.remove, State.setStage, OwnedTasks.remove, owned, same]

omit [DecidableEq Task] inv in
theorem Sound.close (sound : Sound shardFor state task)
    (before : state.tasks.closed (shardFor task) = false)
    (member : task ∈ (state.closeAndCollect (shardFor task)).collected ↔
      task ∈ state.collected ∨ state.tasks.ownedSelf task = true) :
    Sound shardFor (state.closeAndCollect (shardFor task)) task := by
  rcases sound.unclosed before with ⟨unreported, absent, unremoved⟩
  have collected : task ∈ (state.closeAndCollect (shardFor task)).collected ↔
      (state.stage task).linked = true := by
    simpa [absent, sound.owned] using member
  refine { sound with unclosed := ?_, divided := ?_, collected := ?_, cancelled := .inr }
  · simp [State.closeAndCollect, OwnedTasks.closeAndCollect]
  · intro _ born
    cases linked : (state.stage task).linked with
    | true =>
      refine .inl ⟨collected.mpr linked, unreported, fun removed => ?_⟩
      have is := sound.removed.mp (removed ▸ Option.some_ne_none false)
      simp [linked] at is
    | false =>
      refine .inr (.inr ⟨fun inside => ?_, unreported, ?_⟩)
      · simp [linked] at collected
        exact collected inside
      · have is := sound.removed.mpr ⟨born, linked⟩
        rcases Option.ne_none_iff_exists'.mp is with ⟨closed, removed⟩
        cases closed with
        | true => exact absurd removed unremoved
        | false => exact removed
  · intro inside unborn
    have linked := collected.mp inside
    simp only [State.closeAndCollect] at unborn
    simp [unborn, Stage.linked] at linked

omit [DecidableEq Task] in
theorem Inv.closeAndCollect (shard : Fin shards) (closing : state.phase = .closing shard) :
    Inv shardFor (state.closeAndCollect shard) := by
  rcases inv.linked.collected (Nat.le_refl _) shard with ⟨nodup, member⟩
  have unclosed : state.tasks.closed shard = false := by
    simp [inv.closed, closing, Phase.hasClosed]
  constructor
  case linked => exact inv.linked.close state.started.length shard
  case closed =>
    intro other
    have before := inv.closed other
    rw [closing] at before
    simp only [State.closeAndCollect, OwnedTasks.closeAndCollect, update_apply, before,
      Phase.hasClosed, Fin.ext_iff]
    split <;> simp <;> omega
  case nodup =>
    refine List.nodup_append.mpr ⟨inv.nodup, nodup, ?_⟩
    rintro task old _ new rfl
    rcases (member task).mp new with ⟨rfl, _⟩
    exact ((inv.sound task).unclosed unclosed).2.1 old
  case sound =>
    intro task
    by_cases here : shardFor task = shard
    · subst here
      refine (inv.sound task).close unclosed ?_
      simp only [State.closeAndCollect, List.mem_append, member, true_and]
    · refine (inv.sound task).frame ?_ ?_ id id fun waiting => .inr ?_
      · simp [State.closeAndCollect, OwnedTasks.closeAndCollect, here]
      · simp [State.closeAndCollect, member, here]
      · simp only [State.toCancel, closing] at waiting
        simp [State.toCancel, State.closeAndCollect, waiting]

theorem Inv.shutdown (step : state.shutdown = some next) : Inv shardFor next := by
  simp only [State.shutdown] at step
  split at step
  case h_1 uncalled =>
    cases step
    refine inv.setPhase _ (fun shard => ?_) (fun task => ?_)
    · simp [uncalled, Phase.hasClosed]
    · simp [uncalled, State.toCancel]
  case h_2 shard closing =>
    split at step
    · cases step
      exact inv.closeAndCollect _ closing
    · rename_i beyond
      cases step
      refine inv.setPhase _ (fun other => ?_) (fun task => ?_)
      · have inside := other.isLt
        simp only [closing, Phase.hasClosed]
        simp only [decide_eq_true_iff.mpr (show other.val < shard by omega)]
      · simp [closing, State.toCancel]
  case h_3 task rest cancelling =>
    cases step
    have flagged := inv.cancel task
    refine ⟨flagged.linked, fun shard => ?_, flagged.nodup, fun other => ?_⟩
    · refine (inv.closed shard).trans ?_
      simp [cancelling, Phase.hasClosed]
    · refine (flagged.sound other).frame rfl .rfl id id fun waiting => ?_
      simp only [State.toCancel, State.cancel, cancelling, List.mem_cons] at waiting
      rcases waiting with rfl | waiting
      · exact .inl (update_self ..)
      · exact .inr waiting
  case h_4 cancelling =>
    cases step
    refine inv.setPhase _ (fun shard => ?_) (fun task => ?_)
    · simp [cancelling, Phase.hasClosed]
    · simp [cancelling, State.toCancel]
  case h_5 waiting =>
    cases step
    refine inv.setPhase _ (fun shard => ?_) (fun task => ?_)
    · simp [waiting, Phase.hasClosed]
    · simp [waiting, State.toCancel]
  case h_6 shard scanning =>
    split at step <;> cases step
    · refine inv.setPhase _ (fun shard => ?_) (fun task => ?_)
      · split <;> simp [scanning, Phase.hasClosed]
      · simp [scanning, State.toCancel]
    · refine inv.setPhase _ (fun shard => ?_) (fun task => ?_)
      · simp [scanning, Phase.hasClosed]
      · simp [scanning, State.toCancel]
  case h_7 => cases step

theorem Inv.step (step : state.step shardFor action = some next) : Inv shardFor next := by
  cases action with
  | insert spawner task =>
    rcases of_guard step with ⟨⟨unborn, _⟩, rfl⟩
    exact inv.insert spawner unborn
  | schedule task =>
    simp only [State.step, State.schedule] at step
    split at step
    case h_1 inserted =>
      cases step
      exact inv.setStage (by simp [inserted]) (by rw [inserted]; rfl) (by simp)
        (by simp [inserted])
    case h_2 inserted =>
      cases step
      refine (inv.cancel task).setStage (by simp [State.cancel, inserted]) ?_ (by simp) ?_
      · simp [State.cancel, inserted, Stage.linked]
      · simp [State.cancel]
    case h_3 cancelled =>
      rcases of_unless step with ⟨_, rfl⟩
      exact inv.setStage (by simp [cancelled]) (by rw [cancelled]; rfl) (by simp)
        (by simp [cancelled])
    case h_4 announced =>
      cases step
      exact inv.setStage (by simp [announced]) (by rw [announced]; rfl) (by simp)
        (by simp [announced])
    case h_5 => cases step
  | finish task =>
    rcases of_guard step with ⟨⟨live, _⟩, rfl⟩
    exact inv.setStage (by simp [live]) (by rw [live]; rfl) (by simp) (by simp [live])
  | remove task =>
    rcases of_guard step with ⟨finished, rfl⟩
    exact inv.remove finished
  | report task =>
    simp only [State.step, State.report] at step
    split at step
    · rename_i removed
      rcases of_unless step with ⟨_, rfl⟩
      exact inv.setStage (by simp [removed]) (by rw [removed]; rfl) (by simp)
        (by simp [removed])
    · cases step
  | shutdown => exact inv.shutdown step

omit inv in
theorem inv_of_reaches (reached : (machine shardFor).Reaches admits state) :
    Inv shardFor state := by
  refine reached.invariant (Inv shardFor) (fun _ _ _ inv _ step => inv.step step) ?_
  refine ⟨wellLinked_initial, fun _ => rfl, List.nodup_nil, fun task => ?_⟩
  constructor <;> simp [machine, Stage.linked]

/-! ## The last scan -/

variable (shardFor) in
/-- The task is still to be announced, and the scan has yet to come to its spawner. -/
def Unannounced (shard : Nat) (state : State shards Task) (task : Task) : Prop :=
  (state.stage task = .inserted true ∨ state.stage task = .cancelled) ∧
    ∃ spawner, state.spawner task = some spawner ∧ state.stage spawner = .live ∧
      shard ≤ shardFor spawner

variable (shardFor) in
/-- The tasks that the thread in `empty()` has missed so far are unannounced ones. -/
structure Scanned (state : State shards Task) : Prop where
  scanning : ∀ shard, state.phase = .scanning shard → ∀ task,
    (state.stage task).linked = true → shardFor task < shard →
      Unannounced shardFor shard state task
  quiescent : state.phase = .quiescent → ∀ task, (state.stage task).linked = false

variable (scanned : Scanned shardFor state)

include scanned

omit [DecidableEq Task] inv in
theorem Scanned.move (task : Task)
    (phase : next.phase = state.phase)
    (others : ∀ other, other ≠ task →
      (next.stage other, next.spawner other) = (state.stage other, state.spawner other))
    (live : ∀ child, (state.stage child).scheduling = true → state.spawner child = some task →
      state.stage task = .live → next.stage task = .live)
    (own : ∀ shard, state.phase = .scanning shard → (next.stage task).linked = true →
      shardFor task < shard → Unannounced shardFor shard next task)
    (quiescent : state.phase = .quiescent → (next.stage task).linked = false) :
    Scanned shardFor next := by
  simp only [Prod.mk.injEq] at others
  constructor
  case scanning =>
    intro shard scanning other linked passed
    rw [phase] at scanning
    by_cases same : other = task
    · subst same
      exact own shard scanning linked passed
    rw [(others other same).1] at linked
    rcases scanned.scanning shard scanning other linked passed with
      ⟨stage, spawner, spawned, alive, ahead⟩
    refine ⟨(others other same).1 ▸ stage, spawner, (others other same).2.trans spawned, ?_, ahead⟩
    by_cases changed : spawner = task
    · subst changed
      refine live other ?_ spawned alive
      rcases stage with stage | stage <;> rw [stage] <;> rfl
    · exact (others spawner changed).1.trans alive
  case quiescent =>
    intro quiet other
    rw [phase] at quiet
    by_cases same : other = task
    · subst same
      exact quiescent quiet
    · rw [(others other same).1]
      exact scanned.quiescent quiet other

omit [DecidableEq Task] inv in
theorem Scanned.passed (scanning : state.phase = .scanning shard)
    (linked : (state.stage task).linked = true)
    (announced : state.stage task ≠ .inserted true ∧ state.stage task ≠ .cancelled) :
    shard ≤ shardFor task := by
  by_contra behind
  rcases scanned.scanning shard scanning task linked (by omega) with ⟨stage | stage, _⟩
  · exact announced.1 stage
  · exact announced.2 stage

omit inv in
/-- A task that has been announced, or that needs not be, goes on. -/
theorem Scanned.setStage
    (live : ∀ child, (state.stage child).scheduling = true → state.spawner child = some task →
      state.stage task ≠ .live) (linked : stage.linked = true → (state.stage task).linked = true)
    (announced : state.stage task ≠ .inserted true ∧ state.stage task ≠ .cancelled) :
    Scanned shardFor (state.setStage task stage) := by
  have now : (state.setStage task stage).stage task = stage := update_self ..
  refine scanned.move task rfl (fun other different => ?_) ?_ ?_ ?_
  · simp [State.setStage, different]
  · exact fun child scheduling spawned alive => absurd alive (live child scheduling spawned)
  · rw [now]
    intro shard scanning after behind
    have ahead := scanned.passed scanning (linked after) announced
    omega
  · rw [now]
    intro quiet
    cases after : stage.linked with
    | false => rfl
    | true =>
      have before := scanned.quiescent quiet task
      simp [linked after] at before

/-- While the scan goes on, a new task comes from a live one that the scan has yet to find. -/
theorem Scanned.insert (unborn : state.stage task = .unborn) (able : state.canSpawn spawner = true)
    (admitted : onlyTasksSpawn state
    (.insert spawner task)) : Scanned shardFor (state.insert shardFor spawner task) := by
  have spawned : state.phase.closed = true → ∃ parent, spawner = some parent ∧
      state.stage parent = .live := by
    intro closed
    rcases Option.ne_none_iff_exists'.mp (admitted closed) with ⟨parent, rfl⟩
    simp only [State.canSpawn, Bool.and_eq_true, beq_iff_eq] at able
    exact ⟨parent, rfl, able.1⟩
  refine scanned.move task rfl (fun other different => ?_) ?_ ?_ ?_
  · simp [State.insert, State.setStage, different]
  · simp [unborn]
  · intro shard scanning _ behind
    rcases spawned (by rw [scanning]; rfl) with ⟨parent, rfl, alive⟩
    have closed : state.tasks.closed (shardFor task) = true := by
      rw [inv.closed, scanning]
      rfl
    have different : parent ≠ task := by
      rintro rfl
      simp [unborn] at alive
    refine ⟨.inl ?_, parent, update_self .., ?_, ?_⟩
    · simp [State.insert, State.setStage, OwnedTasks.insert, closed]
    · simp [State.insert, State.setStage, different, alive]
    · exact scanned.passed scanning (by rw [alive]; rfl) (by simp [alive])
  · intro quiet
    rcases spawned (by rw [quiet]; rfl) with ⟨parent, rfl, alive⟩
    have unlinked := scanned.quiescent quiet parent
    simp [alive, Stage.linked] at unlinked

omit [DecidableEq Task] in
theorem Scanned.advance (scanning : state.phase = .scanning shard) (inside : shard < shards)
    (empty : state.tasks.isEmpty ⟨shard, inside⟩ = true) :
    Scanned shardFor { state with phase := .scanning (shard + 1) } := by
  have unlinked : ∀ task, (state.stage task).linked = true → (shardFor task).val ≠ shard := by
    rintro task linked rfl
    have unowned := inv.linked.unowned_of_isEmpty empty
    rw [(inv.sound task).owned, linked] at unowned
    exact Bool.noConfusion unowned
  refine ⟨?_, by simp⟩
  rintro _ ⟨⟩ task linked passed
  have apart := unlinked task linked
  rcases scanned.scanning shard scanning task linked (by omega) with
    ⟨stage, spawner, spawned, alive, ahead⟩
  have different := unlinked spawner (by rw [alive]; rfl)
  exact ⟨stage, spawner, spawned, alive, by omega⟩

omit [DecidableEq Task] inv in
theorem Scanned.finish (scanning : state.phase = .scanning shard) (beyond : ¬shard < shards) :
    Scanned shardFor { state with phase := .quiescent } := by
  refine ⟨by simp, fun _ task => ?_⟩
  have inside := (shardFor task).isLt
  cases linked : (state.stage task).linked with
  | false => rfl
  | true =>
    rcases scanned.scanning shard scanning task linked (by omega) with
      ⟨_, spawner, _, _, ahead⟩
    have bounded := (shardFor spawner).isLt
    omega

theorem Scanned.shutdown (step : state.shutdown = some next) : Scanned shardFor next := by
  simp only [State.shutdown] at step
  split at step
  case h_1 | h_4 | h_3 =>
    cases step
    exact ⟨by simp, by simp⟩
  case h_2 =>
    split at step <;> cases step <;> constructor <;> simp [State.closeAndCollect]
  case h_5 =>
    cases step
    exact ⟨by simp +contextual, by simp⟩
  case h_6 shard scanning =>
    split at step
    · rename_i inside
      cases step
      cases empty : state.tasks.isEmpty ⟨shard, inside⟩ with
      | true => exact scanned.advance inv scanning inside empty
      | false => exact ⟨by simp, by simp⟩
    · rename_i beyond
      cases step
      exact scanned.finish scanning beyond
  case h_7 => cases step

omit scanned in
theorem Inv.spawning (scheduling : (state.stage child).scheduling = true)
    (spawned : state.spawner child = some task) : state.spawning task = true := by
  have born : state.stage child ≠ .unborn := by
    intro unborn
    simp [unborn, Stage.scheduling] at scheduling
  refine List.any_eq_true.mpr ⟨child, (inv.sound child).started born, ?_⟩
  simp [scheduling, spawned]

omit inv in
theorem Scanned.schedule (step : state.schedule task = some next) : Scanned shardFor next := by
  simp only [State.schedule] at step
  split at step
  case h_1 inserted =>
    cases step
    refine scanned.setStage ?_ ?_ ?_ <;> simp [inserted, Stage.linked]
  case h_2 inserted =>
    cases step
    refine scanned.move task rfl (fun other different => ?_) (by simp [inserted]) ?_ ?_
    · simp [State.setStage, State.cancel, different]
    · intro shard scanning _ behind
      rcases scanned.scanning shard scanning task (by rw [inserted]; rfl) behind with
        ⟨_, spawner, spawned, alive, ahead⟩
      have different : spawner ≠ task := by
        rintro rfl
        simp [inserted] at alive
      refine ⟨.inr (update_self ..), spawner, spawned, ?_, ahead⟩
      simp [State.setStage, State.cancel, different, alive]
    · intro quiet
      have unlinked := scanned.quiescent quiet task
      simp [inserted, Stage.linked] at unlinked
  case h_3 cancelled =>
    rcases of_unless step with ⟨free, rfl⟩
    refine scanned.move task rfl (fun other different => ?_) (by simp [cancelled]) ?_ ?_
    · simp [State.setStage, different]
    · intro shard scanning
      simp [State.mutexHeld, scanning] at free
    · intro quiet
      have unlinked := scanned.quiescent quiet task
      simp [cancelled, Stage.linked] at unlinked
  case h_4 announced =>
    cases step
    refine scanned.setStage ?_ ?_ ?_ <;> simp [announced, Stage.linked]
  case h_5 => cases step

theorem Scanned.step (admitted : onlyTasksSpawn state action)
    (step : state.step shardFor action = some next) : Scanned shardFor next := by
  cases action with
  | insert spawner task =>
    rcases of_guard step with ⟨⟨unborn, able⟩, rfl⟩
    exact scanned.insert inv unborn able admitted
  | schedule task => exact scanned.schedule step
  | finish task =>
    rcases of_guard step with ⟨⟨live, idle⟩, rfl⟩
    refine scanned.setStage (fun child scheduling spawned => ?_) ?_ ?_
    · simp [inv.spawning scheduling spawned] at idle
    · simp [live, Stage.linked]
    · simp [live]
  | remove task =>
    rcases of_guard step with ⟨finished, rfl⟩
    have gone : Scanned shardFor
        (state.setStage task (.removed (state.tasks.remove shardFor task).1.2)) := by
      refine scanned.setStage ?_ ?_ ?_ <;> simp [finished, Stage.linked]
    exact ⟨gone.scanning, gone.quiescent⟩
  | report task =>
    simp only [State.step, State.report] at step
    split at step
    · rename_i removed
      rcases of_unless step with ⟨_, rfl⟩
      refine scanned.setStage ?_ ?_ ?_ <;> simp [removed, Stage.linked]
    · cases step
  | shutdown => exact scanned.shutdown inv step

end Moves

/-! ## The shutdown -/

theorem divided_of_reaches (reached : (machine shardFor).Reaches admits state)
    (inserted : state.insertClosed task ≠ none) (closed : state.tasks.closed
    (shardFor task) = true) : Divided state task := by
  have inv := inv_of_reaches reached
  have sound := inv.sound task
  have fate := sound.divided closed (sound.inserted.mp inserted)
  refine ⟨List.nodup_iff_count_le_one.mp inv.nodup task, fate, ?_⟩
  rcases fate with ⟨member, _⟩ | ⟨_, reported, _⟩ | ⟨_, _, removed⟩
  · rcases sound.cancelled member with flagged | waiting
    · exact .inr (.inl flagged)
    · exact .inr (.inr (.inl waiting))
  · rcases sound.born reported with flagged | waiting
    · exact .inr (.inl flagged)
    · exact .inr (.inr (.inr waiting))
  · exact .inl removed

theorem scanned_of_reaches (reached : (machine shardFor).Reaches onlyTasksSpawn state) :
    Scanned shardFor state := by
  refine reached.invariant_given inv_of_reaches (Scanned shardFor)
    (fun _ _ _ inv scanned admitted step => scanned.step inv admitted step) ?_
  constructor <;> simp [machine]

theorem quiescent_stays {state : State shards Task} (quiet : state.phase = .quiescent)
    (step : state.step shardFor action = some next) : next.phase = .quiescent := by
  cases action with
  | insert spawner task | finish task | remove task =>
    rcases of_guard step with ⟨_, rfl⟩
    exact quiet
  | schedule task =>
    simp only [State.step, State.schedule, State.mutexHeld, quiet] at step
    split at step <;> cases step <;> exact quiet
  | report task =>
    simp only [State.step, State.report, State.mutexHeld, quiet] at step
    split at step <;> simp at step
    cases step
    exact quiet
  | shutdown => simp [State.step, State.shutdown, quiet] at step

theorem unlinked_of_quiescent (reached : (machine shardFor).Reaches onlyTasksSpawn state)
    (quiet : state.phase = .quiescent)
    (path : (machine shardFor).Path onlyTasksSpawn state actions later) : later.Unlinked := by
  have kept : Inv shardFor later ∧ Scanned shardFor later ∧ later.phase = .quiescent := by
    refine path.invariant
      (fun state => Inv shardFor state ∧ Scanned shardFor state ∧ state.phase = .quiescent) ?_
      ⟨inv_of_reaches reached, scanned_of_reaches shardFor reached, quiet⟩
    rintro state action next ⟨inv, scanned, quiet⟩ admitted step
    exact ⟨inv.step step, scanned.step inv admitted step, quiescent_stays shardFor quiet step⟩
  rcases kept with ⟨inv, scanned, quiet⟩
  have unowned : ∀ task, later.tasks.ownedSelf task = false :=
    fun task => (inv.sound task).owned.trans (scanned.quiescent quiet task)
  exact ⟨inv.linked.head_eq_none unowned, unowned⟩

/-- However the tasks are spread over the shards, a task that meets the closing of its shard
is collected by `close_and_collect()`, refused by `insert()` or removed before, and never two
of these. When only tasks spawn from then on, `empty()` returns true only once every shard is
empty for good. -/
theorem shutdown_loses_no_task :
    (∀ state, (machine shardFor).Reaches anyMove state → ∀ task,
      state.insertClosed task ≠ none → state.tasks.closed (shardFor task) = true →
        Divided state task) ∧
    ∀ state, (machine shardFor).Reaches onlyTasksSpawn state → state.phase = .quiescent →
      ∀ actions later, (machine shardFor).Path onlyTasksSpawn state actions later →
        later.Unlinked := by
  constructor
  · intro state reached task inserted closed
    exact divided_of_reaches shardFor reached inserted closed
  · intro state reached quiet actions later path
    exact unlinked_of_quiescent shardFor reached quiet path

/-- The first of three tasks stands alone in the second of two shards. -/
def spread (task : Fin 3) : Fin 2 :=
  if task.val = 0 then ⟨1, by decide⟩ else ⟨0, by decide⟩

/-- Task 0 spawns task 1 into a shard that is closed, while its own is not. It is collected
then, and spawns task 2 behind the first scan. -/
def spawnedBehind : List (Action (Fin 3)) :=
  [.insert none 0, .schedule 0, .shutdown, .shutdown, .insert (some 0) 1, .schedule 1,
    .schedule 1, .schedule 1, .shutdown, .shutdown, .shutdown, .shutdown, .finish 1, .remove 1,
    .report 1, .shutdown, .shutdown, .insert (some 0) 2, .schedule 2, .shutdown, .schedule 2,
    .schedule 2, .finish 0, .remove 0, .report 0, .finish 2, .remove 2, .report 2, .shutdown,
    .shutdown, .shutdown, .shutdown]

theorem shutdown_loses_no_task_spawned :
    ∃ state, (machine spread).Reaches onlyTasksSpawn state ∧ state.phase = .quiescent ∧
      state.collected = [0] ∧ state.insertClosed 1 = some true ∧ Divided state 0 ∧
      Divided state 1 ∧ state.Unlinked := by
  rcases (machine spread).reaches_exec onlyTasksSpawn spawnedBehind (by decide +kernel) with
    ⟨actions, path⟩
  have anyhow := path.mono fun _ _ _ => trivial
  refine ⟨_, ⟨actions, path⟩, by decide +kernel, by decide +kernel, by decide +kernel, ?_, ?_, ?_⟩
  · exact (shutdown_loses_no_task spread).1 _ ⟨actions, anyhow⟩ 0 (by decide +kernel)
      (by decide +kernel)
  · exact (shutdown_loses_no_task spread).1 _ ⟨actions, anyhow⟩ 1 (by decide +kernel)
      (by decide +kernel)
  · exact (shutdown_loses_no_task spread).2 _ ⟨actions, path⟩ (by decide +kernel) [] _ (.nil _)

/-- In every run a shard's list ends, and leads to the tasks that are linked in it and to no
other, to each of them once. -/
theorem shard_list_exact (reached : (machine shardFor).Reaches admits state) (shard : Fin shards)
    (fuel : state.started.length ≤ limit) :
    (state.tasks.closeAndCollect limit shard).1.Nodup ∧
    ∀ task, task ∈ (state.tasks.closeAndCollect limit shard).1 ↔
      shardFor task = shard ∧ (state.stage task).linked = true := by
  have inv := inv_of_reaches reached
  rcases inv.linked.collected fuel shard with ⟨nodup, members⟩
  refine ⟨nodup, fun task => ?_⟩
  rw [members, (inv.sound task).owned]

/-- A task is unlinked from between two others. -/
theorem shard_list_exact_removed : ∃ state, (machine fun _ : Fin 3 => (0 : Fin 1)).Reaches
    anyMove state ∧ (state.tasks.closeAndCollect 9 0).1 = [2, 0] ∧
      (state.tasks.closeAndCollect 9 0).1.Nodup :=
  exists_of_exec
    [.insert none 0, .insert none 1, .insert none 2, .schedule 1, .finish 1, .remove 1]
    (by decide +kernel) fun reached =>
      ⟨by decide +kernel, (shard_list_exact _ reached 0 (by decide +kernel)).1⟩

end CoroRuntime.Ownership
