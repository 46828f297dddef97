import CoroRuntime.Timers.Slots
import CoroRuntime.Timers.TimerMap

/-! # Firing and closing a timer queue

A critical section of `fire_expired` takes the first timers that are due from the map, and
`close_and_wake_all` takes all of them.
-/

namespace CoroRuntime.Timers

open Foundation

namespace Queue

variable {Waker : Type u} {queue : Queue Waker} (library : HeapLibrary Entry Entry.before)

/-! ## The earliest entry -/

theorem Sound.front (sound : queue.Sound) (heap : queue.heap = first :: rest)
    (inside : entry ∈ queue.heap) : entry = first ∨ first.before entry := by
  have order := sound.heap
  rw [heap] at order
  have notBefore := order.first (heap ▸ inside)
  by_cases same : entry.seq = first.seq
  · left
    exact List.inj_on_of_nodup_map sound.allotted.seqs_nodup inside
      (heap ▸ List.mem_cons_self) same
  · right
    simp only [Entry.before] at notBefore ⊢
    omega

/-- The queue once the first entry is popped and its slot is freed. -/
def popped (queue : Queue Waker) (first : Entry) (others : List Entry) : Queue Waker :=
  { queue with
    heap := others
    cancelled := queue.cancelled - (queue.slots first.slot).cancelled.toNat }.freeSlot first.slot

section Pop

variable {first : Entry} {rest others : List Entry} (sound : queue.Sound)
  (heap : queue.heap = first :: rest) (perm : others.Perm rest)
  (order : IsHeap Entry.before others)

include sound heap perm

theorem Sound.popped_allotted : (queue.popped first others).Allotted others := by
  have allotted := sound.allotted
  rw [heap] at allotted
  exact (allotted.freeSlot.perm perm.symm).of_same rfl rfl rfl rfl

theorem Sound.popped_holds (ref : Ref) (timer : Timer Waker) :
    (queue.popped first others).Holds others ref timer ↔
      queue.Holds queue.heap ref timer ∧ ¬ queue.Names ref first := by
  have allotted := sound.allotted
  rw [heap] at allotted ⊢
  rw [← allotted.freeSlot_holds]
  exact Holds.perm perm

include order in
theorem Sound.popped : (queue.popped first others).Sound := by
  have allotted := sound.allotted
  refine ⟨order, sound.popped_allotted heap perm, ?_, ?_⟩
  · rw [heap] at allotted
    have count := allotted.freeSlot_count
    have counted := sound.cancelled
    rw [heap] at counted
    rw [← counted] at count
    have same :
        others.countP (fun entry => ((queue.popped first others).slots entry.slot).cancelled) =
        rest.countP fun entry => ((queue.freeSlot first.slot).slots entry.slot).cancelled :=
      perm.countP_eq _
    refine Eq.trans ?_ same.symm
    rw [Nat.eq_sub_of_add_eq count]
    rfl
  · intro closed
    have empty := sound.closed closed
    rw [heap] at empty
    cases empty

omit sound in
theorem popped_held (held : queue.Held queue.heap ref) :
    (queue.popped first others).Held others ref := by
  rw [heap] at held
  exact held.freeSlot.perm perm.symm

end Pop

/-! ## A critical section -/

def wakes (alive : Waker → Bool) (queue : Queue Waker) (entry : Entry) : Bool :=
  !(queue.slots entry.slot).cancelled && locks alive (queue.timer entry)

theorem expire_pop (order : IsHeap Entry.before queue.heap) (heap : queue.heap = first :: rest)
    (due : first.deadline ≤ now) (space : 0 < room) :
    ∃ others, others.Perm rest ∧ IsHeap Entry.before others ∧
      queue.expire library alive now (fuel + 1) room =
        let fired := (queue.popped first others).expire library alive now fuel
          (room - (queue.wakes alive first).toNat)
        (if queue.wakes alive first then queue.timer first :: fired.1 else fired.1, fired.2) := by
  rw [heap] at order
  rcases library.pop_heap first rest order with ⟨others, pops, perm, heapOthers⟩
  have pop : queue.popFront library = some (first, { queue with heap := others }) := by
    rw [popFront, heap, pops, List.getLast?_append, List.dropLast_concat]
    rfl
  refine ⟨others, perm, heapOthers, ?_⟩
  rw [Queue.expire, heap, pop]
  simp only [List.head?_cons, Option.all_some, decide_eq_true_eq]
  rw [if_neg (Int.not_lt.mpr due), if_neg (Nat.ne_of_gt space), Queue.popped, wakes]
  cases cancelled : (queue.slots first.slot).cancelled with
  | true => simp
  | false => cases locked : locks alive (queue.timer first) <;> simp

/-- The loop leaves the queue as it is, or pops the first entry and goes on. -/
theorem expire_induction {motive : Queue Waker → Queue Waker → Prop}
    (stay : ∀ queue, IsHeap Entry.before queue.heap → motive queue queue)
    (pop : ∀ queue first rest others next, queue.heap = first :: rest → others.Perm rest →
      IsHeap Entry.before others → first.deadline ≤ now →
        motive (queue.popped first others) next → motive queue next)
    (order : IsHeap Entry.before queue.heap) :
    motive queue (queue.expire library alive now fuel room).2.2 := by
  induction fuel generalizing queue room with
  | zero => exact stay queue order
  | succ fuel induction =>
    cases heap : queue.heap with
    | nil =>
      rw [Queue.expire, heap]
      exact stay queue order
    | cons first rest =>
      by_cases due : first.deadline ≤ now
      swap
      · rw [Queue.expire, heap]
        simp only [List.head?_cons, Option.all_some, Int.not_le.mp due, decide_true, if_true]
        exact stay queue order
      by_cases space : 0 < room
      swap
      · rw [Queue.expire, heap, Nat.eq_zero_of_not_pos space]
        simp only [List.head?_cons, Option.all_some, decide_eq_true_eq, if_neg
          (Int.not_lt.mpr due), if_true]
        exact stay queue order
      rcases expire_pop library order heap due space with ⟨others, perm, heaped, turn⟩
      rw [turn]
      have popped : IsHeap Entry.before (queue.popped first others).heap := heaped
      exact pop queue first rest others _ heap perm heaped due (induction popped)

/-- What a critical section of `fire_expired` leaves, and what it takes from the map. -/
structure Fires (alive : Waker → Bool) (now : Int) (room : Nat) (queue : Queue Waker)
    (result : List (Timer Waker) × Bool × Queue Waker) : Prop where
  sound : result.2.2.Sound
  batch : ∃ expired, Batch alive now room queue.live result.2.2.live expired result.1 result.2.1
  held : ∀ ref, queue.Held queue.heap ref → result.2.2.Held result.2.2.heap ref
  nextSeq : result.2.2.nextSeq = queue.nextSeq
  slotCount : result.2.2.slotCount = queue.slotCount
  closed : result.2.2.closed = queue.closed

variable (sound : queue.Sound)

include sound

theorem Sound.stop (more : Bool)
    (complete : more = false → ∀ entry ∈ queue.heap, now < entry.deadline)
    (full : more → room = 0) : queue.Fires alive now room ([], more, queue) where
  sound := sound
  batch := by
    refine ⟨[], .nil queue.live more ?_ full⟩
    intro done ref timer live
    rcases (live_eq_some sound.allotted).mp live with ⟨entry, inside, -, rfl⟩
    exact complete done entry inside
  held := fun _ held => held
  nextSeq := rfl
  slotCount := rfl
  closed := rfl

theorem Sound.popped_live (heap : queue.heap = first :: rest) (perm : others.Perm rest)
    (order : IsHeap Entry.before others) (ref : Ref) :
    (queue.popped first others).live ref =
      if queue.Names ref first then none else queue.live ref := by
  have later := sound.popped heap perm order
  apply Option.ext
  intro timer
  rw [live_eq_some later.allotted]
  refine (sound.popped_holds heap perm ref timer).trans ?_
  split
  · rename_i mine
    simp [mine]
  · rename_i other
    rw [live_eq_some sound.allotted, and_iff_left other]

theorem Sound.fires_cancelled (heap : queue.heap = first :: rest) (perm : others.Perm rest)
    (order : IsHeap Entry.before others) (cancelled : (queue.slots first.slot).cancelled)
    (fires : (queue.popped first others).Fires alive now room result) :
    queue.Fires alive now room result where
  sound := fires.sound
  batch := by
    have live : (queue.popped first others).live = queue.live := by
      funext ref
      rw [sound.popped_live heap perm order, if_neg]
      intro names
      rw [names.2.1] at cancelled
      cases cancelled
    rw [← live]
    exact fires.batch
  held := fun ref held => fires.held ref (popped_held heap perm held)
  nextSeq := fires.nextSeq
  slotCount := fires.slotCount
  closed := fires.closed

/-- A live timer is taken, and woken if its waker is still there. -/
theorem Sound.fires_live (heap : queue.heap = first :: rest) (perm : others.Perm rest)
    (order : IsHeap Entry.before others) (uncancelled : (queue.slots first.slot).cancelled = false)
    (due : first.deadline ≤ now) (space : 0 < room)
    (fires : (queue.popped first others).Fires alive now
      (room - (locks alive (queue.timer first)).toNat) result) :
    queue.Fires alive now room
      (if locks alive (queue.timer first) then queue.timer first :: result.1 else result.1,
        result.2) where
  sound := fires.sound
  batch := by
    rcases fires.batch with ⟨expired, batch⟩
    have mine : queue.Names ⟨first.slot, (queue.slots first.slot).freed⟩ first :=
      ⟨rfl, uncancelled, rfl⟩
    have inside : first ∈ queue.heap := heap ▸ List.mem_cons_self
    refine ⟨_, .cons ⟨first.slot, (queue.slots first.slot).freed⟩ (queue.timer first) batch space
      ?_ due ?_ ?_⟩
    · exact (live_eq_some sound.allotted).mpr ⟨first, inside, mine, rfl⟩
    · intro other
      rw [sound.popped_live heap perm order]
      congr 1
      rw [eq_iff_iff, Ref.ext_iff, Names]
      simp only [uncancelled, true_and]
      exact and_congr eq_comm eq_comm
    · intro other later live
      have popped := sound.popped heap perm order
      rcases (live_eq_some popped.allotted).mp live with ⟨entry, there, -, rfl⟩
      have entryIn : entry ∈ queue.heap := heap ▸ List.mem_cons_of_mem _ (perm.mem_iff.mp there)
      have apart : entry ≠ first := by
        rintro rfl
        have nodup := List.Nodup.of_map _ sound.allotted.slots_nodup
        rw [heap, List.nodup_cons] at nodup
        exact nodup.1 (perm.mem_iff.mp there)
      exact (sound.front heap entryIn).resolve_left apart
  held := fun ref held => fires.held ref (popped_held heap perm held)
  nextSeq := fires.nextSeq
  slotCount := fires.slotCount
  closed := fires.closed

omit sound in
theorem Sound.expire (sound : queue.Sound) (enough : queue.heap.length ≤ fuel) :
    queue.Fires alive now room (queue.expire library alive now fuel room) := by
  induction fuel generalizing queue room with
  | zero =>
    have empty : queue.heap = [] := List.eq_nil_of_length_eq_zero (Nat.le_zero.mp enough)
    exact sound.stop false (by rw [empty]; nofun) nofun
  | succ fuel induction =>
    cases heap : queue.heap with
    | nil =>
      rw [Queue.expire, heap]
      exact sound.stop false (by rw [heap]; nofun) nofun
    | cons first rest =>
      by_cases due : first.deadline ≤ now
      swap
      · rw [Queue.expire, heap]
        simp only [List.head?_cons, Option.all_some, Int.not_le.mp due, decide_true, if_true]
        refine sound.stop false ?_ nofun
        intro _ entry inside
        rcases sound.front heap inside with rfl | later
        · exact Int.not_le.mp due
        · simp only [Entry.before] at later
          omega
      by_cases space : 0 < room
      swap
      · have none : room = 0 := Nat.eq_zero_of_not_pos space
        rw [Queue.expire, heap, none]
        simp only [List.head?_cons, Option.all_some, decide_eq_true_eq, if_neg
          (Int.not_lt.mpr due), if_true]
        exact sound.stop true nofun fun _ => rfl
      rcases expire_pop library sound.heap heap due space with ⟨others, perm, order, turn⟩
      rw [turn]
      have fewer : (queue.popped first others).heap.length ≤ fuel := by
        have shorter : (queue.popped first others).heap.length = rest.length :=
          perm.length_eq
        rw [heap, List.length_cons] at enough
        omega
      have fires := fun room => @induction _ room (sound.popped heap perm order) fewer
      cases cancelled : (queue.slots first.slot).cancelled with
      | true =>
        have silent : queue.wakes alive first = false := by
          rw [wakes, cancelled]
          rfl
        rw [silent]
        exact sound.fires_cancelled heap perm order cancelled (fires _)
      | false =>
        have wakes : queue.wakes alive first = locks alive (queue.timer first) := by
          rw [Queue.wakes, cancelled, Bool.not_false, Bool.true_and]
        rw [wakes]
        exact sound.fires_live heap perm order cancelled due space (fires _)

theorem Sound.fireSection (endWait : Bool) (alive : Waker → Bool)
    (now : Int) :
    queue.Fires alive now batchSize (queue.fireSection library alive now endWait) := by
  cases endWait with
  | false => exact sound.expire library (le_refl _)
  | true =>
    have ended : queue.endWait.Sound :=
      ⟨sound.heap, sound.allotted.of_same rfl rfl rfl rfl, sound.cancelled, sound.closed⟩
    have fires : queue.endWait.Fires alive now batchSize _ := ended.expire library (le_refl _)
    exact { fires with }

/-! ## Closing -/

omit sound in
omit library in
theorem Allotted.closeEntries (allotted : queue.Allotted entries) (alive : Waker → Bool) :
    (queue.closeEntries alive entries).1 =
        (entries.filter (queue.wakes alive)).map queue.timer ∧
      (queue.closeEntries alive entries).2.Allotted [] ∧
      (∀ ref, queue.Held entries ref → (queue.closeEntries alive entries).2.Held [] ref) ∧
      queue.Same (queue.closeEntries alive entries).2 := by
  induction entries generalizing queue with
  | nil => exact ⟨rfl, allotted, fun _ held => held, .refl queue⟩
  | cons entry rest induction =>
    rcases induction allotted.freeSlot with ⟨list, fits, held, same⟩
    have slots : ∀ other ∈ rest,
        (queue.freeSlot entry.slot).slots other.slot = queue.slots other.slot :=
      fun other inside => freeSlot_of_ne (allotted.other_slot inside)
    have timers : ∀ other ∈ rest, (queue.freeSlot entry.slot).timer other = queue.timer other := by
      intro other inside
      rw [Queue.timer, Queue.timer, slots other inside]
    have filtered : rest.filter ((queue.freeSlot entry.slot).wakes alive) =
        rest.filter (queue.wakes alive) := by
      apply List.filter_congr
      intro other inside
      rw [wakes, wakes, slots other inside, timers other inside]
    have mapped : (rest.filter (queue.wakes alive)).map (queue.freeSlot entry.slot).timer =
        (rest.filter (queue.wakes alive)).map queue.timer :=
      List.map_congr_left fun other inside => timers other (List.mem_of_mem_filter inside)
    rw [filtered, mapped] at list
    have fields : queue.Same ((queue.freeSlot entry.slot).closeEntries alive rest).2 :=
      { same with }
    simp only [Queue.closeEntries]
    split
    · rename_i woken
      have wakes : queue.wakes alive entry = true := by
        rw [Queue.wakes, woken.1, woken.2]
        rfl
      rw [List.filter_cons_of_pos wakes, List.map_cons, ← list]
      exact ⟨rfl, fits, fun ref before => held ref before.freeSlot, fields⟩
    · rename_i silent
      have wakes : ¬ queue.wakes alive entry = true := by
        rw [Queue.wakes, Bool.and_eq_true, Bool.not_eq_true']
        exact silent
      rw [List.filter_cons_of_neg wakes]
      exact ⟨list, fits, fun ref before => held ref before.freeSlot, fields⟩

omit library in
theorem Sound.timer_inj (firstIn : first ∈ queue.heap) (secondIn : second ∈ queue.heap)
    (same : queue.timer first = queue.timer second) : first = second :=
  List.inj_on_of_nodup_map sound.allotted.seqs_nodup firstIn secondIn (congrArg Timer.seq same)

omit library in
theorem Sound.close (alive : Waker → Bool) :
    (queue.closeAndWakeAll alive).2.Sound ∧
      (∀ ref, (queue.closeAndWakeAll alive).2.live ref = none) ∧
      (queue.closeAndWakeAll alive).1.Nodup ∧
      (∀ timer, timer ∈ (queue.closeAndWakeAll alive).1 ↔
        (∃ ref, queue.live ref = some timer) ∧ locks alive timer) ∧
      (∀ ref, queue.Held queue.heap ref → (queue.closeAndWakeAll alive).2.Held [] ref) ∧
      (queue.closeAndWakeAll alive).2.heap = [] ∧ (queue.closeAndWakeAll alive).2.closed ∧
      (queue.closeAndWakeAll alive).2.nextSeq = queue.nextSeq ∧
      (queue.closeAndWakeAll alive).2.slotCount = queue.slotCount := by
  have allotted := sound.allotted
  have closing : { queue with closed := true }.Allotted queue.heap :=
    allotted.of_same rfl rfl rfl rfl
  rcases closing.closeEntries alive with ⟨list, fits, held, same⟩
  have woken : (queue.closeAndWakeAll alive).1 =
      (queue.heap.filter (queue.wakes alive)).map queue.timer := list
  refine ⟨⟨isHeap_nil, ?_, rfl, fun _ => rfl⟩, fun _ => rfl, ?_, ?_, held, rfl, same.closed,
    same.nextSeq, same.slotCount⟩
  · exact fits.of_same rfl rfl rfl rfl
  · rw [woken]
    refine ((List.Nodup.of_map _ allotted.slots_nodup).filter _).map_on ?_
    intro first firstIn second secondIn equal
    exact sound.timer_inj (List.mem_of_mem_filter firstIn) (List.mem_of_mem_filter secondIn) equal
  · intro timer
    rw [woken, List.mem_map]
    constructor
    · rintro ⟨entry, inside, rfl⟩
      have known := List.mem_filter.mp inside
      rw [wakes, Bool.and_eq_true, Bool.not_eq_true'] at known
      refine ⟨⟨⟨entry.slot, (queue.slots entry.slot).freed⟩, ?_⟩, known.2.2⟩
      exact (live_eq_some allotted).mpr ⟨entry, known.1, ⟨rfl, known.2.1, rfl⟩, rfl⟩
    · rintro ⟨⟨ref, live⟩, locked⟩
      rcases (live_eq_some allotted).mp live with ⟨entry, inside, names, rfl⟩
      refine ⟨entry, List.mem_filter.mpr ⟨inside, ?_⟩, rfl⟩
      rw [wakes, names.2.1, locked]
      rfl

end Queue

end CoroRuntime.Timers
