import CoroRuntime.Timers.Refinement

/-! # The waiter of a timer queue

A waiter sleeps for the time that `begin_wait` gave it. Until its `end_wait`, no entry in
the heap, cancelled or not, has a deadline within that time unless an insert has asked for
an unpark. That the entry at the front may be one that is cancelled, or may have gone,
does not matter: whatever is there is not due before the waiter wakes.
-/

namespace CoroRuntime.Timers

open Foundation

variable {Waker : Type u} (library : HeapLibrary Entry Entry.before)

namespace Queue

variable {queue : Queue Waker}

/-! ## The heap between two inserts -/

/-- Entries leave the heap, and the waiter stays. -/
structure Shrinks (queue next : Queue Waker) : Prop where
  heap : ∀ entry ∈ next.heap, entry ∈ queue.heap
  waiting : next.waiting = queue.waiting

theorem Shrinks.refl (queue : Queue Waker) : queue.Shrinks queue := ⟨fun _ inside => inside, rfl⟩

theorem sweepEntries_subset :
    (∀ entry ∈ (queue.sweepEntries entries).1, entry ∈ entries) ∧
      (queue.sweepEntries entries).2.waiting = queue.waiting := by
  induction entries generalizing queue with
  | nil => exact ⟨nofun, rfl⟩
  | cons entry rest induction =>
    simp only [Queue.sweepEntries]
    split
    · have swept := @induction (queue.freeSlot entry.slot)
      exact ⟨fun other inside => List.mem_cons_of_mem _ (swept.1 other inside), swept.2⟩
    · refine ⟨?_, induction.2⟩
      intro other inside
      rcases List.mem_cons.mp inside with rfl | later
      · exact List.mem_cons_self
      · exact List.mem_cons_of_mem _ (induction.1 other later)

theorem shrinks_sweep : queue.Shrinks (queue.sweep library) := by
  refine ⟨?_, sweepEntries_subset.2⟩
  intro entry inside
  exact sweepEntries_subset.1 entry ((library.make_perm _).mem_iff.mp inside)

theorem closeEntries_waiting :
    (queue.closeEntries alive entries).2.waiting = queue.waiting := by
  induction entries generalizing queue with
  | nil => rfl
  | cons entry rest induction =>
    simp only [Queue.closeEntries]
    split <;> exact induction

theorem shrinks_cancel (id : TimerId) : queue.Shrinks (queue.cancel library id) := by
  simp only [Queue.cancel]
  split
  · exact .refl queue
  split
  · exact .refl queue
  split
  · have swept : (queue.mark id.index).Shrinks ((queue.mark id.index).sweep library) :=
      shrinks_sweep library
    exact ⟨swept.heap, swept.waiting⟩
  · exact ⟨fun _ inside => inside, rfl⟩

variable (order : IsHeap Entry.before queue.heap)

include order

theorem shrinks_expire :
    queue.Shrinks (queue.expire library alive now fuel room).2.2 ∧
      IsHeap Entry.before (queue.expire library alive now fuel room).2.2.heap := by
  refine expire_induction library (motive := fun queue next =>
    queue.Shrinks next ∧ IsHeap Entry.before next.heap) ?_ ?_ order
  · intro queue order
    exact ⟨.refl queue, order⟩
  · rintro queue first rest others next heap perm - - ⟨shrinks, stays⟩
    refine ⟨⟨?_, shrinks.waiting⟩, stays⟩
    intro entry inside
    rw [heap]
    exact List.mem_cons_of_mem _ (perm.mem_iff.mp (shrinks.heap entry inside))

/-! ## Heap order, whatever is in the slots -/

theorem isHeap_insert (deadline : Int) (waker : Option Waker) :
    IsHeap Entry.before (queue.insert library deadline waker).2.heap := by
  simp only [Queue.insert]
  split
  · exact order
  · exact library.push_heap _ _ order

theorem isHeap_cancel (id : TimerId) : IsHeap Entry.before (queue.cancel library id).heap := by
  simp only [Queue.cancel]
  split
  · exact order
  split
  · exact order
  split
  · exact library.make_heap _
  · exact order

theorem front_deadline_le (heap : queue.heap = front :: rest) (inside : entry ∈ queue.heap) :
    front.deadline ≤ entry.deadline := by
  rw [heap] at order inside
  have notBefore := order.first inside
  rw [Entry.before] at notBefore
  omega

end Queue

/-! ## The wait -/

def Wait.EndsBy (wait : Wait) (deadline : Int) : Prop :=
  match wait.bound with
  | none => False
  | some bound => wait.start + bound ≤ deadline

theorem Wait.EndsBy.later {wait : Wait} {later : Int} (ends : wait.EndsBy deadline)
    (order : deadline ≤ later) : wait.EndsBy later := by
  rw [EndsBy] at ends ⊢
  cases bound : wait.bound with
  | none =>
    rw [bound] at ends
    exact ends
  | some limit =>
    rw [bound] at ends
    exact Int.le_trans ends order

/-- A waiter is known of, and nothing in the heap is due before its wait is over. -/
structure Queue.Covers (queue : Queue Waker) (wait : Wait) : Prop where
  waiting : queue.waiting
  ends : ∀ entry ∈ queue.heap, wait.EndsBy entry.deadline

namespace Queue.Covers

variable {queue next : Queue Waker} {wait : Wait}

theorem shrink (covers : queue.Covers wait) (shrinks : queue.Shrinks next) : next.Covers wait :=
  ⟨shrinks.waiting.trans covers.waiting,
    fun entry inside => covers.ends entry (shrinks.heap entry inside)⟩

theorem insert (covers : queue.Covers wait)
    (silent : (queue.insert library deadline waker).1.unpark = false) :
    (queue.insert library deadline waker).2.Covers wait := by
  simp only [Queue.insert] at silent ⊢
  split
  · exact covers
  · rename_i isOpen
    rw [if_neg isOpen, covers.waiting, Bool.true_and] at silent
    refine ⟨?_, ?_⟩
    · rw [← covers.waiting, Queue.takeSlot]
      split <;> rfl
    · intro entry inside
      rw [(library.push_perm _).mem_iff, List.mem_append, List.mem_singleton] at inside
      rcases inside with there | rfl
      · exact covers.ends entry there
      · cases heap : queue.heap with
        | nil =>
          rw [heap] at silent
          cases silent
        | cons front rest =>
          rw [heap, List.head?_cons, Option.all_some, decide_eq_false_iff_not] at silent
          have first := covers.ends front (heap ▸ List.mem_cons_self)
          exact first.later (Int.not_lt.mp silent)

/-- `begin_wait` computes the wait from the front, and nothing is due before it is over. -/
theorem beginWait (order : IsHeap Entry.before queue.heap) (now : Int) (maxWait : Option Int)
    (long : (queue.beginWait now maxWait).1.all (0 < ·)) (unparked : Bool) :
    (queue.beginWait now maxWait).2.Covers ⟨now, (queue.beginWait now maxWait).1, unparked⟩ := by
  simp only [Queue.beginWait] at long ⊢
  split at long
  · simp at long
  rename_i positive
  simp only [if_neg positive]
  refine ⟨long, ?_⟩
  intro entry inside
  cases heap : queue.heap with
  | nil =>
    rw [heap] at inside
    cases inside
  | cons front rest =>
    have first := front_deadline_le order heap inside
    rw [heap] at long
    rw [Wait.EndsBy]
    simp only at long ⊢
    cases maxWait with
    | none =>
      simp only [Option.all_none, if_true, Option.all_some, decide_eq_true_eq] at long ⊢
      split at long <;> grind
    | some limit =>
      simp only [Option.all_some, decide_eq_true_eq] at long ⊢
      split at long <;> grind

end Queue.Covers

/-! ## The waiter -/

variable {state : State Waker}

structure State.Covered (state : State Waker) : Prop where
  order : IsHeap Entry.before state.queue.heap
  waiter : ∀ wait, state.waiter = some wait → wait.unparked = false → state.queue.Covers wait

namespace State.Covered

theorem shrink (covered : state.Covered) {next : State Waker} (waiter : next.waiter = state.waiter)
    (order : IsHeap Entry.before next.queue.heap)
    (shrinks : state.queue.Shrinks next.queue) : next.Covered :=
  ⟨order, fun wait here silent => (covered.waiter wait (waiter ▸ here) silent).shrink shrinks⟩

theorem of_none {next : State Waker} (order : IsHeap Entry.before next.queue.heap)
    (nobody : next.waiter = none) : next.Covered := by
  refine ⟨order, ?_⟩
  intro wait here
  rw [nobody] at here
  cases here

theorem insert (covered : state.Covered) (deadline : Int) (waker : Option Waker) :
    (state.insert library deadline waker).Covered := by
  refine ⟨Queue.isHeap_insert library covered.order deadline waker, ?_⟩
  intro wait here silent
  simp only [State.insert, Option.map_eq_some_iff] at here
  rcases here with ⟨earlier, waits, rfl⟩
  simp only [Bool.or_eq_false_iff] at silent
  have covers := (covered.waiter earlier waits silent.1).insert library silent.2
  exact ⟨covers.waiting, covers.ends⟩

theorem beginWait (covered : state.Covered) (maxWait : Option Int) :
    (state.beginWait maxWait).Covered := by
  refine ⟨?_, ?_⟩
  · simp only [State.beginWait, Queue.beginWait]
    split <;> exact covered.order
  · intro wait here _
    rcases of_guard here with ⟨long, rfl⟩
    exact Queue.Covers.beginWait covered.order state.clock maxWait long false

variable [DecidableEq Waker]

theorem step (covered : state.Covered) (stepped : Timers.step library state action = some next) :
    next.Covered := by
  have order := covered.order
  cases action with
  | insert deadline waker =>
    cases stepped
    exact covered.insert library deadline waker
  | cancel ref =>
    rcases of_guard stepped with ⟨-, rfl⟩
    exact covered.shrink rfl (Queue.isHeap_cancel library order ref.id)
      (Queue.shrinks_cancel library ref.id)
  | drop waker =>
    cases stepped
    exact covered.shrink rfl order (.refl _)
  | tick _ | fire _ =>
    rcases of_guard stepped with ⟨-, rfl⟩
    exact covered.shrink rfl order (.refl _)
  | beginWait maxWait =>
    rcases of_guard stepped with ⟨-, rfl⟩
    exact covered.beginWait maxWait
  | endWait =>
    rcases of_guard stepped with ⟨-, rfl⟩
    exact of_none order rfl
  | fireSection party =>
    rcases of_guard stepped with ⟨-, rfl⟩
    cases party with
    | waiter =>
      have waited : IsHeap Entry.before state.queue.endWait.heap := order
      exact of_none (Queue.shrinks_expire library waited).2 rfl
    | caller index =>
      exact covered.shrink rfl (Queue.shrinks_expire library order).2
        (Queue.shrinks_expire library order).1
  | close party =>
    rcases of_guard stepped with ⟨-, rfl⟩
    refine covered.shrink rfl isHeap_nil ⟨fun _ inside => absurd inside List.not_mem_nil, ?_⟩
    exact Queue.closeEntries_waiting
  | wake party | loop party =>
    simp only [Timers.step] at stepped
    split at stepped <;> cases stepped
    exact covered.shrink rfl order (.refl _)

end State.Covered

variable [DecidableEq Waker]

theorem State.covered_of_reaches (reached : (machine library).Reaches anyMove state) :
    state.Covered :=
  reached.invariant Covered (fun _ _ _ covered _ stepped => covered.step library stepped)
    (.of_none isHeap_nil rfl)

/-- Between a `begin_wait` that returned a wait and the waiter's next `end_wait`, a live
timer that is due before the wait is over means that an insert has asked for an unpark. -/
theorem waiter_never_oversleeps (reached : (machine library).Reaches anyMove state) :
    ∀ wait, state.waiter = some wait → ∀ ref timer, state.queue.live ref = some timer →
      (∀ bound, wait.bound = some bound → timer.deadline < wait.start + bound) →
        wait.unparked = true := by
  intro wait waits ref timer live early
  by_contra silent
  have covered := State.covered_of_reaches library reached
  rcases Option.map_eq_some_iff.mp live with ⟨entry, found, rfl⟩
  have ends := (covered.waiter wait waits (by simpa using silent)).ends entry
    (List.mem_of_find?_eq_some found)
  cases bound : wait.bound with
  | none =>
    rw [Wait.EndsBy, bound] at ends
    exact ends
  | some limit =>
    rw [Wait.EndsBy, bound] at ends
    exact Int.not_lt.mpr ends (early limit bound)

/-- The front that the waiter computed its wait from is cancelled, and an insert with an
earlier deadline follows. -/
theorem waiter_never_oversleeps_cancelled :
    ∃ (state : State Nat) (wait : Wait),
      (machine HeapLibrary.sorted).Reaches anyMove state ∧ state.waiter = some wait ∧
      wait.start = 2 ∧ wait.bound = some 8 ∧
      state.queue.live ⟨1, 0⟩ = some ⟨7, 1, some 1⟩ ∧ wait.unparked = true := by
  have reached := (machine HeapLibrary.sorted).reaches_exec anyMove
    [.insert 10 (some 0), .tick 2, .beginWait none, .cancel ⟨0, 0⟩, .insert 7 (some 1)]
    (by decide +kernel)
  refine ⟨_, _, reached, rfl, rfl, rfl, rfl,
    waiter_never_oversleeps HeapLibrary.sorted reached _ rfl ⟨1, 0⟩ _ rfl ?_⟩
  intro limit is
  cases is
  decide

end CoroRuntime.Timers
