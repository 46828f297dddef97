import CoroRuntime.Completion.TaskState
import Mathlib.Data.List.Nodup

/-! # No completion is lost

A waiter whose last check found its task unfinished is woken when the task terminates. The
one waker slot is enough for that: whoever may wait for the task next takes the slot over
before its own check.
-/

namespace CoroRuntime.Completion

open Foundation
open Function (update update_self update_of_ne)

variable {Task : Type t} {Scopes : Type s} {Waker : Type u} {T : Type v} {Error : Type w}

/-! ## One task and its waiter -/

/-- The waiter will be woken, is being woken, or has been woken since its check. -/
def Entry.Promises (wakes : Waker → Nat) (entry : Entry Scopes Waker T Error) (waker : Waker)
    (count : Nat) : Prop :=
  (entry.task.terminated = false ∧ entry.task.waker = some waker) ∨
    entry.ending = .waking (some waker) ∨ count < wakes waker

structure Entry.Sound (wakes : Waker → Nat) (alive : Waker → Bool)
    (entry : Entry Scopes Waker T Error) : Prop where
  terminated : entry.task.terminated ↔ entry.ending ≠ .running
  expired : entry.expired → entry.task.terminated
  checked : ∀ waker count, entry.watch = some (waker, count) → count ≤ wakes waker
  watched : ∀ waker count, entry.watch = some (waker, count) → alive waker →
    entry.Promises wakes waker count
  parked : ∀ parker consumed, entry.holder = .thread (.parked parker consumed) →
    entry.watch = some (parker, consumed)
  /-- The thread's waker stays in the slot, so that it need not be stored again. -/
  slot : ∀ parker, (∃ consumed, entry.holder = .thread (.parked parker consumed)) ∨
    entry.holder = .thread (.checking parker) → entry.task.terminated = false →
    entry.task.waker = some parker
  returned : entry.holder = .thread .returned → entry.task.terminated

namespace TaskState

@[simp] theorem terminate_terminated (state : TaskState Waker T Error)
    (terminal : Terminal T Error) : (state.terminate terminal).2.terminated = true := by
  cases terminal <;> rfl

@[simp] theorem terminate_taken (state : TaskState Waker T Error)
    (terminal : Terminal T Error) : (state.terminate terminal).1 = state.waker := by
  cases terminal <;> rfl

theorem outcome_isPending (state : TaskState Waker T Error) :
    state.outcome.isPending = false := by
  rw [outcome]
  split <;> rfl

theorem poll_of_terminated {state : TaskState Waker T Error} (terminated : state.terminated)
    (waker : Waker) : state.poll waker = (state.outcome, state) := by
  rw [poll, if_pos terminated]

theorem poll_of_unfinished {state : TaskState Waker T Error}
    (unfinished : state.terminated = false) (waker : Waker) :
    state.poll waker = (.pending, { state with waker := some waker }) := by
  rw [poll, if_neg (ne_true_of_eq_false unfinished)]

theorem poll_isPending (state : TaskState Waker T Error) (waker : Waker) :
    (state.poll waker).1.isPending = !state.terminated := by
  cases terminated : state.terminated with
  | true => rw [poll_of_terminated terminated, outcome_isPending, Bool.not_true]
  | false =>
    rw [poll_of_unfinished terminated]
    rfl

end TaskState

namespace Entry.Sound

variable {wakes later : Waker → Nat} {alive : Waker → Bool} {entry : Entry Scopes Waker T Error}

variable (sound : entry.Sound wakes alive)

include sound

theorem mono (more : ∀ waker, wakes waker ≤ later waker)
    (fewer : ∀ waker, still waker → alive waker) :
    entry.Sound later still where
  __ := sound
  checked waker count watches := Nat.le_trans (sound.checked waker count watches) (more waker)
  watched waker count watches lives := by
    rcases sound.watched waker count watches (fewer waker lives) with slot | waking | woken
    · exact .inl slot
    · exact .inr (.inl waking)
    · exact .inr (.inr (Nat.lt_of_lt_of_le woken (more waker)))

theorem hand {holder : Holder Scopes Waker}
    (unparked : ∀ parking, holder ≠ .thread parking ∨ parking = .entering) :
    { entry with holder }.Sound wakes alive where
  __ := sound
  parked parker consumed is := by
    rcases unparked (.parked parker consumed) with not | impossible
    · exact absurd is not
    · cases impossible
  slot parker is := by
    rcases is with ⟨consumed, is⟩ | is
    · rcases unparked (.parked parker consumed) with not | impossible
      · exact absurd is not
      · cases impossible
    · rcases unparked (.checking parker) with not | impossible
      · exact absurd is not
      · cases impossible
  returned is := by
    rcases unparked .returned with not | impossible
    · exact absurd is not
    · cases impossible

theorem unwatch {id : Scopes}
    (held : entry.holder = .child id) : { entry with watch := none }.Sound wakes alive where
  __ := sound
  checked _ _ watches := by cases watches
  watched _ _ watches := by cases watches
  parked parker consumed is := by cases held.symm.trans is

theorem leave {holder : Holder Scopes Waker}
    (unparked : ∀ parking, holder ≠ .thread parking ∨ parking = .entering) :
    { entry with holder, watch := none }.Sound wakes alive where
  __ := sound.hand unparked
  checked _ _ watches := by cases watches
  watched _ _ watches := by cases watches
  parked parker consumed is := by
    rcases unparked (.parked parker consumed) with not | impossible
    · exact absurd is not
    · cases impossible

theorem terminate (runs : entry.ending = .running)
    (terminal : Terminal T Error) :
    { entry with
      task := (entry.task.terminate terminal).2
      ending := .waking (entry.task.terminate terminal).1 }.Sound wakes alive where
  __ := sound
  terminated := by simp
  expired _ := by simp
  watched waker count watches lives := by
    rcases sound.watched waker count watches lives with ⟨-, slot⟩ | waking | woken
    · exact .inr (.inl (by simp [slot]))
    · rw [runs] at waking
      cases waking
    · exact .inr (.inr woken)
  slot _ _ unfinished := by simp at unfinished
  returned _ := by simp

theorem wake (waking : entry.ending = .waking taken) (more : ∀ waker, wakes waker ≤ later waker)
    (called : ∀ waker, taken = some waker → alive waker → wakes waker < later waker) :
    { entry with ending := .ended }.Sound later alive where
  __ := sound
  terminated := by
    have terminated := sound.terminated.mpr (by rw [waking]; simp)
    simp [terminated]
  checked waker count watches := Nat.le_trans (sound.checked waker count watches) (more waker)
  watched waker count watches lives := by
    rcases sound.watched waker count watches lives with ⟨unfinished, -⟩ | is | woken
    · have terminated := sound.terminated.mpr (by rw [waking]; simp)
      rw [terminated] at unfinished
      cases unfinished
    · rw [waking, Ending.waking.injEq] at is
      exact .inr (.inr (Nat.lt_of_le_of_lt (sound.checked waker count watches)
        (called waker is lives)))
    · exact .inr (.inr (Nat.lt_of_lt_of_le woken (more waker)))

/-- A check that finds the task unfinished while its slot holds the waiter's waker -/
theorem watch (waker : Waker)
    (stored : entry.task.terminated = false → entry.task.waker = some waker)
    (unfinished : entry.task.terminated = false)
    (unparked : ∀ parker consumed, entry.holder = .thread (.parked parker consumed) →
      parker = waker ∧ consumed = wakes waker) :
    { entry with watch := some (waker, wakes waker) }.Sound wakes alive where
  __ := sound
  checked _ _ is := by
    cases is
    exact Nat.le_refl _
  watched _ _ is _ := by
    cases is
    exact .inl ⟨unfinished, stored unfinished⟩
  parked parker consumed is := by
    rcases unparked parker consumed is with ⟨rfl, rfl⟩
    rfl

theorem setWaker (unwatched : entry.watch = none)
    (unparked : ∀ parking, entry.holder ≠ .thread parking) (waker : Waker) :
    { entry with task := entry.task.setWaker waker }.Sound wakes alive where
  __ := sound
  watched other count watches := by
    rw [unwatched] at watches
    cases watches
  slot parker is := by
    rcases is with ⟨_, is⟩ | is
    · exact absurd is (unparked _)
    · exact absurd is (unparked _)

theorem park (parker : Waker) {task : TaskState Waker T Error}
    (before : entry.task.terminated = false) (unfinished : task.terminated = false)
    (stored : task.waker = some parker) :
    (entry.park parker (wakes parker) task).Sound wakes alive where
  terminated := by
    have same := sound.terminated
    rwa [before, ← unfinished] at same
  expired expired := by
    rw [sound.expired expired] at before
    cases before
  checked _ _ is := by
    cases is
    exact Nat.le_refl _
  watched _ _ is _ := by
    cases is
    exact .inl ⟨unfinished, stored⟩
  parked _ _ is := by
    cases is
    rfl
  slot _ is _ := by
    rcases is with ⟨_, is⟩ | is
    · cases is
      exact stored
    · cases is
  returned is := by cases is

theorem finishWait (terminated : entry.task.terminated) :
    ({ entry with holder := .thread .returned, watch := none } :
      Entry Scopes Waker T Error).Sound wakes alive where
  __ := sound
  checked _ _ watches := by cases watches
  watched _ _ watches := by cases watches
  parked _ _ is := by cases is
  slot _ _ unfinished := by cases terminated.symm.trans unfinished
  returned _ := terminated

theorem poll (waker : Waker) : (entry.poll waker (wakes waker)).Sound wakes alive := by
  simp only [Entry.poll, TaskState.poll_isPending]
  cases unfinished : entry.task.terminated with
  | true =>
    rw [TaskState.poll_of_terminated unfinished]
    exact sound.leave (fun _ => .inl (by simp))
  | false =>
    rw [TaskState.poll_of_unfinished unfinished]
    have left : { entry with holder := .handle false, watch := none }.Sound wakes alive :=
      sound.leave (fun _ => .inl (by simp))
    have given := left.setWaker rfl (by simp) waker
    exact given.watch waker (fun _ => rfl) unfinished (by simp)

end Entry.Sound

/-! ## A scope and its children -/

/-- What a waiting scope relies on: its child may terminate, but keeps its waiter and, until
then, the waker in its slot. -/
structure Entry.Stays (entry next : Entry Scopes Waker T Error) : Prop where
  holder : next.holder = entry.holder
  watch : next.watch = entry.watch
  terminated : entry.task.terminated → next.task.terminated
  slot : next.task.terminated = false → next.task.waker = entry.task.waker

theorem Entry.Stays.refl (entry : Entry Scopes Waker T Error) : entry.Stays entry :=
  ⟨rfl, rfl, id, fun _ => rfl⟩

section

variable (entry : Task → Entry Scopes Waker T Error)

/-- The waker has been stored in these children while they were unfinished. -/
def Stored (waker : Waker) (children : List Task) : Prop :=
  ∀ child ∈ children, (entry child).task.terminated = false →
    (entry child).task.waker = some waker

/-- The scope is the waiter of these children, and its last check found them unfinished. -/
def Watched (waker : Waker) (children : List Task) : Prop :=
  ∀ child ∈ children, ∃ count, (entry child).watch = some (waker, count)

def Unwatched (children : List Task) : Prop :=
  ∀ child ∈ children, (entry child).watch = none

def Drain.Sound : Drain Task Waker → Prop
  | .idle => True
  | .pruning _ kept rest => Unwatched entry (kept ++ rest)
  | .storing waker stored rest => Unwatched entry (stored ++ rest) ∧ Stored entry waker stored
  | .sweeping waker kept rest => Watched entry waker kept ∧ Stored entry waker rest

structure Answer.Sound (answer : Answer Task Waker) (scope : Scope Task Waker) : Prop where
  idle : scope.drain = .idle
  pending : ∀ child ∈ answer.kept, child ∈ scope.pending
  watched : Watched entry answer.waker answer.kept
  finished : answer.kept = [] → Settled answer.registered fun child =>
    (entry child).task.terminated

structure Scope.Sound (id : Scopes) (scope : Scope Task Waker) : Prop where
  nodup : (State.waiting scope).Nodup
  mine : ∀ child ∈ State.waiting scope, (entry child).holder = .child id
  tracked : Tracked scope.registered (State.waiting scope) fun child =>
    (entry child).task.terminated
  drain : scope.drain.Sound entry
  answer : ∀ answer, scope.answer = some answer → answer.Sound entry scope

end

section

variable {entry next : Task → Entry Scopes Waker T Error} {children more : List Task}
  {waker : Waker}

theorem Unwatched.frame (unwatched : Unwatched entry children)
    (stays : ∀ child ∈ children, (entry child).Stays (next child)) : Unwatched next children :=
  fun child member => (stays child member).watch.trans (unwatched child member)

theorem Watched.frame (watched : Watched entry waker children)
    (stays : ∀ child ∈ children, (entry child).Stays (next child)) :
    Watched next waker children := by
  intro child member
  rw [(stays child member).watch]
  exact watched child member

theorem Stored.frame (stored : Stored entry waker children)
    (stays : ∀ child ∈ children, (entry child).Stays (next child)) :
    Stored next waker children := by
  intro child member unfinished
  have kept := stays child member
  rw [kept.slot unfinished]
  refine stored child member (eq_false_of_ne_true fun terminated => ?_)
  exact ne_true_of_eq_false unfinished (kept.terminated terminated)

theorem Drain.Sound.frame (sound : drain.Sound entry)
    (stays : ∀ child ∈ State.waiting { drain, pending := [] }, (entry child).Stays (next child)) :
    drain.Sound next := by
  cases drain with
  | idle => trivial
  | pruning waker kept rest => exact Unwatched.frame sound stays
  | storing waker stored rest =>
    exact ⟨sound.1.frame stays,
      sound.2.frame fun child member => stays child (List.mem_append_left _ member)⟩
  | sweeping waker kept rest =>
    exact ⟨sound.1.frame fun child member => stays child (List.mem_append_left _ member),
      sound.2.frame fun child member => stays child (List.mem_append_right _ member)⟩

theorem Answer.Sound.frame {answer : Answer Task Waker} (sound : answer.Sound entry scope)
    (stays : ∀ child ∈ scope.pending, (entry child).Stays (next child))
    (grows : ∀ child, (entry child).task.terminated → (next child).task.terminated) :
    answer.Sound next scope where
  __ := sound
  watched := sound.watched.frame fun child member => stays child (sound.pending child member)
  finished none := (sound.finished none).later grows

theorem Scope.Sound.frame {id : Scopes} {scope : Scope Task Waker} (sound : scope.Sound entry id)
    (stays : ∀ child ∈ State.waiting scope, (entry child).Stays (next child))
    (grows : ∀ child, (entry child).task.terminated → (next child).task.terminated) :
    scope.Sound next id where
  nodup := sound.nodup
  mine child member := (stays child member).holder.trans (sound.mine child member)
  tracked := sound.tracked.later grows
  drain := by
    refine sound.drain.frame fun child member => stays child ?_
    cases is : scope.drain with
    | idle => simp [State.waiting, is] at member
    | pruning | storing | sweeping => simpa [State.waiting, is] using member
  answer answer given := by
    have before := sound.answer answer given
    refine before.frame (fun child member => stays child ?_) grows
    rwa [State.waiting, before.idle]

/-! ### Its moves -/

variable {id : Scopes} {scope : Scope Task Waker}

theorem waiting_idle (idle : scope.drain = .idle) : State.waiting scope = scope.pending := by
  rw [State.waiting, idle]

variable (sound : scope.Sound entry id)

include sound

theorem Scope.Sound.register (idle : scope.drain = .idle) (absent : task ∉ scope.pending)
    (held : (entry task).holder = .child id) :
    Scope.Sound entry id { scope with
      pending := scope.pending ++ [task], registered := scope.registered ++ [task] } := by
  rcases sound with ⟨nodup, mine, tracked, drain, answer⟩
  rw [waiting_idle idle] at nodup mine tracked
  have waits : State.waiting { scope with
      pending := scope.pending ++ [task], registered := scope.registered ++ [task] } =
      scope.pending ++ [task] := waiting_idle idle
  constructor
  · rw [waits]
    refine List.nodup_append.mpr ⟨nodup, List.nodup_singleton task, ?_⟩
    rintro child member _ here rfl
    rw [List.mem_singleton.mp here] at member
    exact absent member
  · intro child member
    rw [waits] at member
    rcases List.mem_append.mp member with before | added
    · exact mine child before
    · rw [List.mem_singleton.mp added]
      exact held
  · rw [waits]
    exact tracked.register task
  · exact drain
  · intro given is
    have before := answer given is
    exact { before with pending := fun child kept =>
      List.mem_append_left _ (before.pending child kept) }

variable {drain : Drain Task Waker}

theorem Scope.Sound.goto (silent : scope.answer = none) {pending : List Task}
    (waits : State.waiting { scope with pending, drain } = State.waiting scope)
    (sound' : drain.Sound entry) : Scope.Sound entry id { scope with pending, drain } where
  nodup := waits ▸ sound.nodup
  mine := waits ▸ sound.mine
  tracked := waits ▸ sound.tracked
  drain := sound'
  answer _ given := by cases silent.symm.trans given

theorem Scope.Sound.finish (waits : State.waiting scope = kept)
    (watched : Watched entry waker kept) :
    Scope.Sound entry id { scope with
      pending := kept, drain := .idle, answer := some ⟨waker, kept, scope.registered⟩ } where
  nodup := waits ▸ sound.nodup
  mine := waits ▸ sound.mine
  tracked := waits ▸ sound.tracked
  drain := trivial
  answer := by
    rintro _ ⟨⟩
    refine ⟨rfl, fun _ member => member, watched, fun none => ?_⟩
    have tracked := sound.tracked
    rw [waits] at tracked
    change kept = [] at none
    rw [none] at tracked
    exact tracked.settled

theorem Scope.Sound.vacuous (idle : scope.drain = .idle)
    (empty : scope.pending = []) (waker : Waker) :
    Scope.Sound entry id { scope with answer := some ⟨waker, [], scope.registered⟩ } := by
  have same : { scope with answer := some ⟨waker, [], scope.registered⟩ } = { scope with
      pending := [], drain := .idle, answer := some ⟨waker, [], scope.registered⟩ } := by
    rw [← idle, ← empty]
  rw [same]
  exact sound.finish ((waiting_idle idle).trans empty) (by simp [Watched])

variable [DecidableEq Task] {child : Task} {changed : Entry Scopes Waker T Error}
  {kept rest : List Task}

omit sound in
theorem stays_update (different : ∀ other ∈ children, other ≠ child) :
    ∀ other ∈ children, (entry other).Stays (update entry child changed other) := by
  intro other member
  rw [update_of_ne (different other member)]
  exact .refl _

omit sound in
theorem grows_update (grows : (entry child).task.terminated → changed.task.terminated)
    (other : Task) (terminated : (entry other).task.terminated) :
    (update entry child changed other).task.terminated := by
  by_cases same : other = child
  · subst same
    rw [update_self]
    exact grows terminated
  · rwa [update_of_ne same]

theorem Scope.Sound.touch (silent : scope.answer = none)
    (held : changed.holder = (entry child).holder)
    (grows : (entry child).task.terminated → changed.task.terminated)
    (waits : State.waiting { scope with drain } = State.waiting scope)
    (sound' : drain.Sound (update entry child changed)) :
    Scope.Sound (update entry child changed) id { scope with drain } where
  nodup := waits ▸ sound.nodup
  mine other member := by
    rw [waits] at member
    by_cases same : other = child
    · subst same
      rw [update_self]
      exact held.trans (sound.mine other member)
    · rw [update_of_ne same]
      exact sound.mine other member
  tracked := (waits ▸ sound.tracked).later (grows_update grows)
  drain := sound'
  answer _ given := by cases silent.symm.trans given

theorem Scope.Sound.drop (waits : State.waiting scope = kept ++ child :: rest)
    (done : (entry child).task.terminated)
    (grows : (entry child).task.terminated → changed.task.terminated)
    (left : State.waiting { scope with drain } = kept ++ rest) (silent : scope.answer = none)
    (sound' : (∀ other ∈ kept ++ rest, other ≠ child) →
      drain.Sound (update entry child changed)) :
    Scope.Sound (update entry child changed) id { scope with drain } := by
  have nodup := sound.nodup
  rw [waits] at nodup
  have different : ∀ other ∈ kept ++ rest, other ≠ child := by
    rintro other member rfl
    rw [List.nodup_middle] at nodup
    exact (List.nodup_cons.mp nodup).1 member
  have listed : ∀ other ∈ kept ++ rest, other ∈ State.waiting scope := by
    intro other member
    rw [waits]
    exact List.mem_append.mpr ((List.mem_append.mp member).imp_right (List.mem_cons_of_mem _))
  constructor
  · rw [left]
    exact (List.nodup_cons.mp (List.nodup_middle.mp nodup)).2
  · intro other member
    rw [left] at member
    rw [update_of_ne (different other member)]
    exact sound.mine other (listed other member)
  · intro other owed
    have still : ∀ other, (entry other).task.terminated →
        (update entry child changed other).task.terminated := grows_update grows
    rcases sound.tracked other owed with member | terminated
    · rw [waits] at member
      by_cases same : other = child
      · subst same
        exact .inr (still other done)
      · left
        show other ∈ State.waiting { scope with drain }
        rw [left]
        simpa [same] using member
    · exact .inr (still other terminated)
  · exact sound' different
  · intro answer given
    cases silent.symm.trans given

end

/-! ## The invariant -/

structure Inv (state : State Task Scopes Waker T Error) : Prop where
  entries : ∀ task, (state.entry task).Sound state.wakes state.alive
  scopes : ∀ id, (state.scope id).Sound state.entry id

namespace Inv

variable {state : State Task Scopes Waker T Error} {task : Task} {id : Scopes}

variable (inv : Inv state)

include inv

theorem later (more : ∀ waker, state.wakes waker ≤ wakes waker)
    (fewer : ∀ waker, alive waker → state.alive waker) : Inv { state with wakes, alive } where
  entries task := (inv.entries task).mono more fewer
  scopes := inv.scopes

section

variable [DecidableEq Waker]

omit inv in
theorem le_wakeUp (state : State Task Scopes Waker T Error) (waker other : Waker) :
    state.wakes other ≤ (state.wakeUp waker).wakes other := by
  simp only [State.wakeUp]
  split
  · by_cases same : other = waker
    · subst same
      simp
    · simp [update_of_ne same]
  · exact Nat.le_refl _

theorem wakeUp (waker : Waker) : Inv (state.wakeUp waker) :=
  inv.later (le_wakeUp state waker) fun _ lives => lives

end

variable [DecidableEq Task]

/-- A task changes in a way that no scope that waits for it minds. -/
theorem setEntry (sound : entry.Sound state.wakes state.alive)
    (grows : (state.entry task).task.terminated → entry.task.terminated)
    (stays : ∀ id, (state.entry task).holder = .child id → (state.entry task).Stays entry) :
    Inv (state.setEntry task entry) where
  entries other := by
    by_cases same : other = task
    · subst same
      simpa [State.setEntry] using sound
    · simpa [State.setEntry, update_of_ne same] using inv.entries other
  scopes id := by
    refine (inv.scopes id).frame (fun child member => ?_) fun child terminated => ?_
    all_goals
      simp only [State.setEntry]
      by_cases same : child = task
    · subst same
      rw [update_self]
      exact stays id ((inv.scopes id).mine child member)
    · rw [update_of_ne same]
      exact .refl _
    · subst same
      rw [update_self]
      exact grows terminated
    · rwa [update_of_ne same]

theorem setUnheld {entry : Entry Scopes Waker T Error}
    (sound : entry.Sound state.wakes state.alive)
    (grows : (state.entry task).task.terminated → entry.task.terminated)
    (unheld : ∀ id, (state.entry task).holder ≠ .child id) :
    Inv (state.setEntry task entry) :=
  inv.setEntry sound grows fun id held => absurd held (unheld id)

/-! ## The task and its handle -/

theorem leave (unheld : ∀ id, (state.entry task).holder ≠ .child id) : Inv (state.leave task) :=
  inv.setUnheld ((inv.entries task).leave fun _ => .inl (by simp)) (fun h => h) unheld

theorem terminate (runs : (state.entry task).ending = .running)
    (terminal : Terminal T Error) :
    Inv (state.setEntry task { state.entry task with
      task := ((state.entry task).task.terminate terminal).2
      ending := .waking ((state.entry task).task.terminate terminal).1 }) := by
  refine inv.setEntry ((inv.entries task).terminate runs terminal) (fun _ => by simp) ?_
  exact fun _ _ => ⟨rfl, rfl, fun _ => by simp, fun unfinished => by simp at unfinished⟩

theorem wake [DecidableEq Waker] (waking : (state.entry task).ending = .waking taken) :
    Inv ((state.setEntry task { state.entry task with ending := .ended }).call taken) := by
  have stays : ∀ id, (state.entry task).holder = .child id → (state.entry task).Stays
      { state.entry task with ending := .ended } := fun _ _ => ⟨rfl, rfl, fun h => h, fun _ => rfl⟩
  cases taken with
  | none =>
    have sound := (inv.entries task).wake waking (fun _ => Nat.le_refl _) (by simp)
    exact inv.setEntry sound (fun h => h) stays
  | some waker =>
    have sound := (inv.entries task).wake waking (le_wakeUp state waker) (by
      rintro _ ⟨⟩ lives
      simp [State.wakeUp, lives])
    exact (inv.wakeUp waker).setEntry sound (fun h => h) stays

/-! ## The thread -/

theorem enter (held : (state.entry task).holder = .thread .entering)
    (parker : Waker) : Inv (state.enter task parker) := by
  have unheld : ∀ id, (state.entry task).holder ≠ .child id := by simp [held]
  simp only [State.enter]
  split
  · rename_i terminated
    exact inv.setUnheld ((inv.entries task).finishWait terminated) (fun h => h) unheld
  · rename_i unfinished
    have unfinished := eq_false_of_ne_true unfinished
    exact inv.setUnheld ((inv.entries task).park parker unfinished unfinished rfl) (fun h => h)
      unheld

theorem check (held : (state.entry task).holder = .thread (.checking parker)) :
    Inv (state.check task parker) := by
  have unheld : ∀ id, (state.entry task).holder ≠ .child id := by simp [held]
  simp only [State.check]
  split
  · rename_i terminated
    exact inv.setUnheld ((inv.entries task).finishWait terminated) (fun h => h) unheld
  · rename_i unfinished
    have unfinished := eq_false_of_ne_true unfinished
    have stored := (inv.entries task).slot parker (.inr held) unfinished
    exact inv.setUnheld ((inv.entries task).park parker unfinished unfinished stored) (fun h => h)
      unheld

/-! ## The scope -/

variable [DecidableEq Scopes]

omit [DecidableEq Task] in
theorem setScope (sound : scope.Sound state.entry id) :
    Inv (state.setScope id scope) where
  entries := inv.entries
  scopes other := by
    by_cases same : other = id
    · subst same
      simpa [State.setScope] using sound
    · simpa [State.setScope, update_of_ne same] using inv.scopes other

theorem close (held : (state.entry task).holder = .handle finished)
    (idle : ∀ id, scope = some id → (state.scope id).drain = .idle) :
    Inv (state.close task finished scope) := by
  have unheld : ∀ id, (state.entry task).holder ≠ .child id := by simp [held]
  simp only [State.close]
  split
  · rename_i id
    have quiet := idle id rfl
    have absent : task ∉ (state.scope id).pending := by
      intro member
      exact unheld id ((inv.scopes id).mine task (waiting_idle quiet ▸ member))
    have left : Entry.Sound state.wakes state.alive
        { state.entry task with holder := .child id, watch := none } :=
      (inv.entries task).leave fun _ => .inl (by simp)
    have moved := inv.setUnheld left (fun h => h) unheld
    have parent : (state.scope id).Sound _ id := moved.scopes id
    exact moved.setScope (parent.register quiet absent (by simp [State.setEntry]))
  · exact inv.leave unheld

theorem setChild (held : (state.entry child).holder = .child id)
    (sound : entry.Sound state.wakes state.alive)
    (grows : (state.entry child).task.terminated → entry.task.terminated)
    (parent : scope.Sound (update state.entry child entry) id) :
    Inv ((state.setEntry child entry).setScope id scope) where
  entries other := by
    simp only [State.setScope, State.setEntry]
    by_cases same : other = child
    · subst same
      simpa using sound
    · simpa [update_of_ne same] using inv.entries other
  scopes other := by
    simp only [State.setScope, State.setEntry]
    by_cases same : other = id
    · subst same
      simpa using parent
    · rw [update_of_ne same]
      refine (inv.scopes other).frame (stays_update ?_) (grows_update grows)
      rintro _ member rfl
      have also := (inv.scopes other).mine _ member
      rw [held, Holder.child.injEq] at also
      exact same also.symm

theorem drain (idle : (state.scope id).drain = .idle) (waker : Waker) :
    Inv (state.drain id waker) := by
  have waits := waiting_idle idle
  simp only [State.drain]
  split
  · rename_i empty
    exact inv.setScope ((inv.scopes id).vacuous idle (List.isEmpty_iff.mp empty) waker)
  · have held : ∀ child ∈ (state.scope id).pending, (state.entry child).holder = .child id :=
      waits ▸ (inv.scopes id).mine
    have kept : ∀ child, ((state.unwatch (state.scope id).pending).entry child).holder =
        (state.entry child).holder ∧
        ((state.unwatch (state.scope id).pending).entry child).task = (state.entry child).task := by
      intro child
      simp only [State.unwatch]
      split <;> exact ⟨rfl, rfl⟩
    refine ⟨fun task => ?_, fun other => ?_⟩
    · simp only [State.setScope, State.unwatch]
      split
      · exact (inv.entries task).unwatch (held task ‹_›)
      · exact inv.entries task
    · by_cases same : other = id
      · subst same
        have sound := inv.scopes other
        simp only [State.setScope, update_self]
        refine ⟨waits ▸ sound.nodup, ?_, ?_, ?_, by simp⟩
        · intro child member
          exact (kept child).1.trans (held child member)
        · refine (waits ▸ sound.tracked).later fun child terminated => ?_
          rwa [(kept child).2]
        · intro child member
          exact congrArg Entry.watch (if_pos member)
      · simp only [State.setScope, update_of_ne same]
        refine (inv.scopes other).frame (fun child member => ?_) fun child terminated => ?_
        · have elsewhere : child ∉ (state.scope id).pending := by
            intro here
            have both := (held child here).symm.trans ((inv.scopes other).mine child member)
            exact same (Holder.child.inj both).symm
          have unchanged : (state.unwatch (state.scope id).pending).entry child =
              state.entry child := if_neg elsewhere
          rw [unchanged]
          exact .refl _
        · rwa [(kept child).2]

theorem dropChild (waits : State.waiting (state.scope id) = kept ++ child :: rest)
    (done : state.isDone child) {drain : Drain Task Waker}
    (left : State.waiting { state.scope id with drain } = kept ++ rest)
    (silent : (state.scope id).answer = none)
    (sound : ∀ changed, (∀ other ∈ kept ++ rest, other ≠ child) →
      drain.Sound (update state.entry child changed)) :
    Inv ((state.leave child).setScope id { state.scope id with drain }) := by
  have terminated : (state.entry child).task.terminated := by
    rcases Bool.or_eq_true_iff.mp done with expired | terminated
    · exact (inv.entries child).expired expired
    · exact terminated
  have held := (inv.scopes id).mine child (by rw [waits]; simp)
  refine inv.setChild held ((inv.entries child).leave fun _ => .inl (by simp)) (fun h => h) ?_
  refine (inv.scopes id).drop waits terminated ?_ left silent (sound _)
  exact fun h => h

theorem proceed (stepped : state.proceed id = some next) : Inv next := by
  have parent := inv.scopes id
  have sound := parent.drain
  have busy : (state.scope id).drain ≠ .idle := by
    intro idle
    simp [State.proceed, idle] at stepped
  have quiet : (state.scope id).answer = none := by
    cases given : (state.scope id).answer with
    | none => rfl
    | some answer => exact absurd (parent.answer answer given).idle busy
  simp only [State.proceed] at stepped
  split at stepped
  case h_1 => cases stepped
  case h_2 waker kept child rest phase =>
    have waits : State.waiting (state.scope id) = kept ++ child :: rest := by
      rw [State.waiting, phase]
    rw [phase] at sound
    split at stepped
    · rename_i done
      cases stepped
      refine inv.dropChild waits done rfl quiet fun changed different => ?_
      have others : Unwatched state.entry (kept ++ rest) := fun other member =>
        sound other (List.mem_append.mpr
          ((List.mem_append.mp member).imp_right (List.mem_cons_of_mem _)))
      exact others.frame (stays_update different)
    · cases stepped
      have same : (kept ++ [child]) ++ rest = kept ++ child :: rest := by simp
      refine inv.setScope (parent.goto quiet (same.trans waits.symm) ?_)
      show Unwatched state.entry ((kept ++ [child]) ++ rest)
      rw [same]
      exact sound
  case h_3 waker kept phase =>
    have waits : State.waiting (state.scope id) = kept := by simp [State.waiting, phase]
    rw [phase] at sound
    cases stepped
    split
    · rename_i empty
      rw [List.isEmpty_iff] at empty
      exact inv.setScope (parent.finish (waits.trans empty) (by simp [Watched]))
    · refine inv.setScope (parent.goto quiet waits.symm ⟨?_, by simp [Stored]⟩)
      simpa [Drain.Sound] using sound
  case h_4 waker stored child rest phase =>
    have waits : State.waiting (state.scope id) = stored ++ child :: rest := by
      rw [State.waiting, phase]
    have same : (stored ++ [child]) ++ rest = stored ++ child :: rest := by simp
    rw [phase] at sound
    have unwatched : Unwatched state.entry ((stored ++ [child]) ++ rest) := same ▸ sound.1
    have member : child ∈ stored ++ child :: rest := by simp
    have held := parent.mine child (waits ▸ member)
    cases stepped
    split
    · rename_i expired
      refine inv.setScope (parent.goto quiet (same.trans waits.symm) ⟨unwatched, ?_⟩)
      intro other here unfinished
      rcases List.mem_append.mp here with before | added
      · exact sound.2 other before unfinished
      · rw [List.mem_singleton.mp added, (inv.entries child).expired expired] at unfinished
        cases unfinished
    · have given : Entry.Sound state.wakes state.alive { state.entry child with
          task := (state.entry child).task.setWaker waker } :=
        (inv.entries child).setWaker (sound.1 child member) (by simp [held]) waker
      refine inv.setChild held given (fun h => h) ?_
      refine parent.touch quiet ?_ ?_ ?_ ⟨?_, ?_⟩
      · rfl
      · exact fun h => h
      · exact same.trans waits.symm
      · intro other here
        by_cases same : other = child
        · subst same
          rw [update_self]
          exact unwatched other here
        · rw [update_of_ne same]
          exact unwatched other here
      · intro other here unfinished
        by_cases same : other = child
        · subst same
          rw [update_self]
          rfl
        · rw [update_of_ne same] at unfinished ⊢
          refine sound.2 other ?_ unfinished
          simpa [same] using here
  case h_5 waker stored phase =>
    have waits : State.waiting (state.scope id) = stored := by simp [State.waiting, phase]
    rw [phase] at sound
    cases stepped
    exact inv.setScope (parent.goto quiet waits.symm ⟨by simp [Watched], sound.2⟩)
  case h_6 waker kept child rest phase =>
    have waits : State.waiting (state.scope id) = kept ++ child :: rest := by
      rw [State.waiting, phase]
    have same : (kept ++ [child]) ++ rest = kept ++ child :: rest := by simp
    rw [phase] at sound
    have nodup := parent.nodup
    rw [waits] at nodup
    split at stepped
    · rename_i done
      cases stepped
      refine inv.dropChild waits done rfl quiet fun changed different => ⟨?_, ?_⟩
      · exact sound.1.frame (stays_update fun other member =>
          different other (List.mem_append_left _ member))
      · have others : Stored state.entry waker rest := fun other member =>
          sound.2 other (List.mem_cons_of_mem _ member)
        exact others.frame (stays_update fun other member =>
          different other (List.mem_append_right _ member))
    · rename_i undone
      cases stepped
      have unfinished : (state.entry child).task.terminated = false := by
        have neither := eq_false_of_ne_true undone
        exact (Bool.or_eq_false_iff.mp neither).2
      have held := parent.mine child (by rw [waits]; simp)
      have checked := (inv.entries child).watch waker (sound.2 child (by simp)) unfinished
        (by simp [held])
      refine inv.setChild held checked (fun h => h) ?_
      refine parent.touch quiet ?_ ?_ ?_ ⟨?_, ?_⟩
      · rfl
      · exact fun h => h
      · exact same.trans waits.symm
      · intro other here
        by_cases same : other = child
        · subst same
          rw [update_self]
          exact ⟨_, rfl⟩
        · rw [update_of_ne same]
          refine sound.1 other ?_
          simpa [same] using here
      · intro other here
        have same : other ≠ child := by
          rintro rfl
          rw [List.nodup_middle] at nodup
          exact (List.nodup_cons.mp nodup).1 (List.mem_append_right _ here)
        rw [update_of_ne same]
        exact sound.2 other (List.mem_cons_of_mem _ here)
  case h_7 waker kept phase =>
    have waits : State.waiting (state.scope id) = kept := by simp [State.waiting, phase]
    rw [phase] at sound
    cases stepped
    exact inv.setScope (parent.finish waits sound.1)

/-! ## Every move -/

variable [DecidableEq Waker]

theorem step (stepped : step state action = some next) : Inv next := by
  cases action with simp only [Completion.step] at stepped
  | spawn task =>
    split at stepped <;> cases stepped
    rename_i unborn
    exact inv.setUnheld ((inv.entries task).hand fun _ => .inl (by simp)) (fun h => h)
      (by simp [unborn])
  | block task =>
    split at stepped <;> cases stepped
    rename_i unborn
    refine inv.setUnheld ((inv.entries task).hand fun parking => ?_) (fun h => h)
      (by simp [unborn])
    by_cases entering : parking = .entering
    · exact .inr entering
    · exact .inl fun is => entering (Holder.thread.inj is).symm
  | terminate task terminal =>
    rcases of_guard stepped with ⟨⟨-, runs⟩, rfl⟩
    exact inv.terminate runs terminal
  | wake task =>
    split at stepped <;> cases stepped
    rename_i taken waking
    exact inv.wake waking
  | free task =>
    simp only [Option.ite_none_right_eq_some] at stepped
    rcases stepped with ⟨ended, stepped⟩
    have sound := inv.entries task
    have freed : { state.entry task with expired := true }.Sound state.wakes state.alive :=
      { sound with expired := fun _ => sound.terminated.mpr (by rw [ended]; simp) }
    split at stepped
    all_goals cases stepped
    all_goals
      exact inv.setEntry freed (fun h => h) fun _ _ => ⟨rfl, rfl, fun h => h, fun _ => rfl⟩
  | poll task waker =>
    split at stepped <;> cases stepped
    rename_i finished held
    refine inv.setUnheld ((inv.entries task).poll waker) ?_ (by simp [held])
    intro terminated
    rw [Entry.poll, TaskState.poll_of_terminated terminated]
    exact terminated
  | close task scope =>
    split at stepped
    · rename_i finished held
      rcases of_guard stepped with ⟨idle, rfl⟩
      refine inv.close held ?_
      rintro id rfl
      simpa using idle
    · cases stepped
  | detach task =>
    split at stepped <;> cases stepped
    rename_i finished held
    exact inv.leave (by simp [held])
  | drain scope waker =>
    rcases of_guard stepped with ⟨idle, rfl⟩
    exact inv.drain idle waker
  | proceed scope => exact inv.proceed stepped
  | enter task parker =>
    split at stepped <;> cases stepped
    rename_i held
    exact inv.enter held parker
  | resume task =>
    split at stepped
    · rename_i parker consumed held
      rcases of_guard stepped with ⟨-, rfl⟩
      have sound := inv.entries task
      refine inv.setUnheld { sound with parked := ?_, slot := ?_, returned := ?_ } (fun h => h)
        (by simp [held])
      · rintro _ _ ⟨⟩
      · rintro other (⟨_, is⟩ | is) unfinished
        · cases is
        · cases is
          exact sound.slot parker (.inl ⟨consumed, held⟩) unfinished
      · rintro ⟨⟩
    · cases stepped
  | check task =>
    split at stepped <;> cases stepped
    rename_i parker held
    exact inv.check held
  | stir waker =>
    cases stepped
    exact inv.wakeUp waker
  | die waker =>
    cases stepped
    refine inv.later (fun _ => Nat.le_refl _) fun other lives => ?_
    by_cases same : other = waker
    · subst same
      simp at lives
    · rwa [update_of_ne same] at lives

end Inv

variable [DecidableEq Task] [DecidableEq Scopes] [DecidableEq Waker]
  {state : State Task Scopes Waker T Error}

theorem inv_of_reaches (reached : machine.Reaches anyMove state) : Inv state := by
  have initially : Inv ({} : State Task Scopes Waker T Error) := by
    constructor
    · intro task
      constructor <;> simp
    · intro id
      refine ⟨by simp [State.waiting], by simp [State.waiting], ?_, trivial, by simp⟩
      exact fun _ member => absurd member List.not_mem_nil
  exact reached.invariant Inv (fun _ _ _ inv _ stepped => inv.step stepped) initially

/-! ## What those who wait can rely on -/

structure LosesNoCompletion (state : State Task Scopes Waker T Error) : Prop where
  woken {task waker count} : (state.entry task).task.terminated →
    (state.entry task).ending = .ended → (state.entry task).watch = some (waker, count) →
    state.alive waker → count < state.wakes waker
  /-- A thread that has been woken returns from `wait_for_wake()`. -/
  returns {task parker consumed} : (state.entry task).task.terminated →
    (state.entry task).ending = .ended →
    (state.entry task).holder = .thread (.parked parker consumed) → state.alive parker →
    (step state (.resume task)).isSome
  /-- It returns from `wait_until_done()` only after the task has terminated. -/
  returned {task} : (state.entry task).holder = .thread .returned →
    (state.entry task).task.terminated
  pending {task} (waker : Waker) : ((state.entry task).task.poll waker).1.isPending ↔
    (state.entry task).task.terminated = false
  /-- The second sweep finds a child unfinished only after the waker has been stored in it. -/
  stored {id waker kept child rest} :
    (state.scope id).drain = .sweeping waker kept (child :: rest) → state.isDone child = false →
    (state.entry child).task.waker = some waker
  /-- So every child that it keeps will wake the parent, is doing so, or has done so. -/
  kept {id answer child} : (state.scope id).answer = some answer → child ∈ answer.kept →
    ∃ count, (state.entry child).watch = some (answer.waker, count) ∧
      (state.alive answer.waker → (state.entry child).Promises state.wakes answer.waker count)
  finished {id answer child} : (state.scope id).answer = some answer → answer.kept = [] →
    child ∈ answer.registered → (state.entry child).task.terminated

/-- In any interleaving of tasks that end with those who wait for them, no completion is
lost. -/
theorem waiting_loses_no_completion (reached : machine.Reaches anyMove state) :
    LosesNoCompletion state := by
  have inv := inv_of_reaches reached
  have woken : ∀ {task waker count}, (state.entry task).task.terminated →
      (state.entry task).ending = .ended → (state.entry task).watch = some (waker, count) →
      state.alive waker → count < state.wakes waker := by
    intro task waker count terminated ended watches lives
    rcases (inv.entries task).watched waker count watches lives with
      ⟨unfinished, -⟩ | waking | woken
    · cases terminated.symm.trans unfinished
    · cases ended.symm.trans waking
    · exact woken
  constructor
  case woken => exact woken
  case returns =>
    intro task parker consumed terminated ended held lives
    have watches := (inv.entries task).parked parker consumed held
    simp [step, held, woken terminated ended watches lives]
  case returned => exact fun held => (inv.entries _).returned held
  case pending =>
    intro task waker
    rw [TaskState.poll_isPending, Bool.not_eq_true']
  case stored =>
    intro id waker kept child rest phase undone
    have sound := (inv.scopes id).drain
    rw [phase] at sound
    exact sound.2 child (by simp) (Bool.or_eq_false_iff.mp undone).2
  case kept =>
    intro id answer child given member
    rcases ((inv.scopes id).answer answer given).watched child member with ⟨count, watches⟩
    exact ⟨count, watches, (inv.entries child).watched _ count watches⟩
  case finished =>
    intro id answer child given none member
    exact ((inv.scopes id).answer answer given).finished none child member

/-- A task ends after its handle has been dropped and the scope has kept it. -/
theorem waiting_loses_no_completion_drained :
    ∃ state : State Nat Nat Nat Nat Nat, machine.Reaches anyMove state ∧
      (state.entry 0).task.terminated ∧ (state.entry 0).ending = .ended ∧
      (state.scope 5).answer = some ⟨7, [0], [0]⟩ ∧ LosesNoCompletion state := by
  refine exists_of_exec
    [.spawn 0, .poll 0 3, .close 0 (some 5), .drain 5 7, .proceed 5, .proceed 5, .proceed 5,
      .proceed 5, .proceed 5, .proceed 5, .terminate 0 (.setResult 1), .wake 0]
    (by decide +kernel) fun reached => ⟨?_, ?_, ?_, waiting_loses_no_completion reached⟩
  all_goals decide +kernel

end CoroRuntime.Completion
