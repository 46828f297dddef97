import CoroRuntime.Timers.Refinement

/-! # The cancelled entries that a timer queue keeps

`cancel` sweeps the heap once it holds 64 cancelled entries and they outnumber the live ones.
Nothing else sweeps, and live timers that fire leave the cancelled entries behind.
-/

namespace CoroRuntime.Timers

open Foundation

namespace Queue

variable {Waker : Type u} {queue next : Queue Waker}

def dead (queue : Queue Waker) : Nat :=
  queue.heap.countP fun entry => (queue.slots entry.slot).cancelled

def pending (queue : Queue Waker) : Nat :=
  queue.heap.countP fun entry => !(queue.slots entry.slot).cancelled

def Stale (now : Int) (queue : Queue Waker) : Prop :=
  ∀ entry ∈ queue.heap, entry.deadline ≤ now → (queue.slots entry.slot).cancelled

instance (now : Int) : Decidable (queue.Stale now) :=
  inferInstanceAs (Decidable (∀ entry ∈ queue.heap, _))

/-- What the test in `cancel` keeps `m_cancelled` within -/
def Swept (queue : Queue Waker) : Prop :=
  queue.cancelled < sweepMinCancelled ∨ 2 * queue.cancelled ≤ queue.heap.length

theorem Sound.size (sound : queue.Sound) : queue.heap.length = queue.cancelled + queue.pending := by
  rw [sound.cancelled, List.length_eq_countP_add_countP
    (fun entry => (queue.slots entry.slot).cancelled)]
  simp [pending]

variable (library : HeapLibrary Entry Entry.before)

theorem Swept.insert (swept : queue.Swept) (deadline : Int) (waker : Option Waker) :
    (queue.insert library deadline waker).2.Swept := by
  cases closed : queue.closed with
  | true =>
    rw [Queue.insert, closed]
    exact swept
  | false =>
    have size : (queue.insert library deadline waker).2.heap.length = queue.heap.length + 1 := by
      rw [Queue.insert, closed]
      exact (library.push_perm _).length_eq.trans List.length_append
    have same : (queue.insert library deadline waker).2.cancelled = queue.cancelled := by
      rw [Queue.insert, closed]
      simp only [Bool.false_eq_true, if_false, takeSlot]
      split <;> rfl
    rw [Swept, size, same]
    exact swept.imp_right fun bound => Nat.le_succ_of_le bound

theorem Swept.cancel (swept : queue.Swept) (id : TimerId) : (queue.cancel library id).Swept := by
  simp only [Queue.cancel]
  split
  · exact swept
  · split
    · exact swept
    · split
      · left
        exact Nat.succ_pos _
      · rename_i few
        simp only [Swept] at few ⊢
        omega

/-- What a critical section of `fire_expired` takes out of the heap -/
structure Drains (now : Int) (queue next : Queue Waker) : Prop where
  fewer : next.cancelled ≤ queue.cancelled
  /-- Live timers leave the heap only when they are due. -/
  pending : queue.Stale now →
    next.heap.length + queue.cancelled = queue.heap.length + next.cancelled

theorem Drains.pop (sound : queue.Sound) (heap : queue.heap = first :: rest)
    (perm : others.Perm rest) (due : first.deadline ≤ now)
    (drains : (queue.popped first others).Drains now next) : queue.Drains now next := by
  have fewer : (queue.popped first others).cancelled ≤ queue.cancelled := Nat.sub_le ..
  refine ⟨Nat.le_trans drains.fewer fewer, ?_⟩
  intro stale
  have cancelled : (queue.slots first.slot).cancelled :=
    stale first (heap ▸ List.mem_cons_self) due
  have counted := sound.cancelled
  rw [heap, List.countP_cons, if_pos cancelled] at counted
  have size : (queue.popped first others).heap.length + 1 = queue.heap.length := by
    rw [heap]
    exact congrArg (· + 1) perm.length_eq
  have one : (queue.popped first others).cancelled = queue.cancelled - 1 := by
    simp only [popped, freeSlot, cancelled, Bool.toNat_true]
  have later : (queue.popped first others).Stale now := by
    intro entry inside expired
    have there : entry ∈ rest := perm.mem_iff.mp inside
    have allotted := sound.allotted
    rw [heap] at allotted
    have apart : (queue.popped first others).slots entry.slot = queue.slots entry.slot :=
      freeSlot_of_ne (allotted.other_slot there)
    rw [apart]
    exact stale entry (heap ▸ List.mem_cons_of_mem _ there) expired
  have rest := drains.pending later
  omega

theorem Sound.drains (sound : queue.Sound) :
    queue.Drains now (queue.expire library alive now fuel room).2.2 := by
  refine expire_induction library (motive := fun queue next => queue.Sound → queue.Drains now next)
    ?_ ?_ sound.heap sound
  · intro queue _ _
    exact ⟨le_refl _, fun _ => rfl⟩
  · intro queue first rest others next heap perm order due drains sound
    exact .pop sound heap perm due (drains (sound.popped heap perm order))

theorem Swept.drain (swept : queue.Swept) (drains : queue.Drains now next)
    (spared : queue.cancelled < sweepMinCancelled ∨ queue.Stale now) : next.Swept := by
  have fewer := drains.fewer
  rcases spared with few | stale
  · exact .inl (Nat.lt_of_le_of_lt fewer few)
  · have same := drains.pending stale
    simp only [Swept] at swept ⊢
    omega

theorem Swept.fireSection (swept : queue.Swept) (sound : queue.Sound) (endWait : Bool)
    (alive : Waker → Bool) (spared : queue.cancelled < sweepMinCancelled ∨ queue.Stale now) :
    (queue.fireSection library alive now endWait).2.2.Swept := by
  cases endWait with
  | false => exact swept.drain (sound.drains library) spared
  | true =>
    have ended : queue.endWait.Sound :=
      ⟨sound.heap, sound.allotted.of_same rfl rfl rfl rfl, sound.cancelled, sound.closed⟩
    have same : queue.endWait.Swept := swept
    exact same.drain (ended.drains library) spared

end Queue

namespace State

variable {Waker : Type u} [DecidableEq Waker] (library : HeapLibrary Entry Entry.before)
  {state : State Waker}

/-- `fire_expired` takes no live timer while the heap holds 64 cancelled entries or more. -/
def Unhurried (state : State Waker) : Action Waker → Prop
  | .fireSection _ =>
    state.queue.cancelled < sweepMinCancelled ∨ state.queue.Stale state.clock
  | _ => True

instance (action : Action Waker) : Decidable (state.Unhurried action) := by
  cases action <;> unfold Unhurried <;> infer_instance

theorem swept_step (refines : state.Refines) (swept : state.queue.Swept)
    (unhurried : state.Unhurried action) (stepped : step library state action = some next) :
    next.queue.Swept := by
  cases action with
  | insert deadline waker =>
    cases stepped
    exact swept.insert library deadline waker
  | cancel ref =>
    rcases of_guard stepped with ⟨-, rfl⟩
    exact swept.cancel library ref.id
  | tick now | endWait | fire party =>
    rcases of_guard stepped with ⟨-, rfl⟩
    exact swept
  | drop waker =>
    cases stepped
    exact swept
  | beginWait maxWait =>
    rcases of_guard stepped with ⟨-, rfl⟩
    simp only [State.beginWait, Queue.beginWait]
    split <;> exact swept
  | fireSection party =>
    rcases of_guard stepped with ⟨-, rfl⟩
    exact swept.fireSection library refines.sound _ _ unhurried
  | close party =>
    rcases of_guard stepped with ⟨-, rfl⟩
    exact .inl (Nat.succ_pos _)
  | wake party | loop party =>
    simp only [Timers.step] at stepped
    split at stepped <;> cases stepped
    exact swept

/-- The discipline of the callers, and of the clock -/
def Spares (state : State Waker) (action : Action Waker) : Prop :=
  Sparing state action ∧ state.Unhurried action

instance (action : Action Waker) : Decidable (state.Spares action) :=
  inferInstanceAs (Decidable (_ ∧ _))

theorem refines_of_spares (reached : (machine library).Reaches Spares state) : state.Refines := by
  rcases reached with ⟨actions, path⟩
  exact refines_of_reaches library ⟨actions, path.mono fun _ _ both => both.1⟩

theorem swept_of_reaches (reached : (machine library).Reaches Spares state) :
    state.queue.Swept := by
  refine reached.invariant_given (refines_of_spares library) (fun state => state.queue.Swept)
    ?_ (.inl (Nat.succ_pos _))
  intro state action next refines swept admitted stepped
  exact swept_step library refines swept admitted.2 stepped

/-- The cancelled entries stay below 64 or do not outnumber the live ones, as long as no live
timer fires while 64 cancelled entries or more are in the heap. -/
theorem cancelled_entries_bounded (reached : (machine library).Reaches Spares state) :
    (state.queue.dead < sweepMinCancelled ∨ state.queue.dead ≤ state.queue.pending) ∧
      state.queue.heap.length ≤
        max (state.queue.pending + (sweepMinCancelled - 1)) (2 * state.queue.pending) := by
  have sound := (refines_of_spares library reached).sound
  have swept := swept_of_reaches library reached
  have size := sound.size
  have dead : state.queue.dead = state.queue.cancelled := sound.cancelled.symm
  simp only [Queue.Swept, sweepMinCancelled] at swept ⊢
  omega

/-- 64 timers that fire at 1 and 64 that are to fire at 2: the latter are cancelled, and no
cancel finds them to outnumber the others. -/
def outlived : List (Action Nat) :=
  List.replicate 64 (.insert 1 none) ++ List.replicate 64 (.insert 2 none) ++
    (List.range 64).map (fun index => .cancel ⟨64 + index, 0⟩) ++
    [.tick 1, .fire .waiter, .fireSection .waiter]

/-- A timer fires before, and 64 cancelled entries do not outnumber the live ones. -/
theorem cancelled_entries_bounded_fired :
    ∃ state : State Nat, (machine HeapLibrary.sorted).Reaches Spares state ∧
      woken state.history = [⟨0, 0, some 7⟩] ∧ state.queue.heap.length = 128 ∧
      state.queue.dead = 64 ∧
      (state.queue.dead < sweepMinCancelled ∨ state.queue.dead ≤ state.queue.pending) := by
  refine exists_of_exec
    ([.insert 0 (some 7), .fire .waiter, .fireSection .waiter, .wake .waiter] ++ outlived.take 192)
    (by decide +kernel) fun reached => ⟨?_, ?_, ?_, (cancelled_entries_bounded _ reached).1⟩
  all_goals decide +kernel

/-- When the live timers have fired, 64 cancelled entries are all that the heap holds. -/
theorem fired_timers_leave_cancelled_entries :
    ∃ state : State Nat, (machine HeapLibrary.sorted).Reaches Sparing state ∧
      state.queue.heap.length = 64 ∧ state.queue.dead = 64 ∧ state.queue.pending = 0 :=
  exists_of_exec outlived (by decide +kernel) fun _ => by decide +kernel

end State

end CoroRuntime.Timers
