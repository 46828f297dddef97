import CoroRuntime.Timers.Queue
import CoroRuntime.Foundation.Counting

/-! # The heap and the slots of a timer queue

Each slot in use has one entry in the heap, and the other slots are free. A timer that is
neither cancelled nor expired is an entry whose slot has not been freed since.
-/

namespace CoroRuntime.Timers

open Foundation
open Function (update update_self update_of_ne update_eq_self_iff)

namespace Entry

theorem before_asymm {second : Entry} (before : first.before second) : ¬ second.before first := by
  simp only [Entry.before] at *
  omega

instance : Std.Asymm Entry.before := ⟨fun _ _ => before_asymm⟩

instance : Std.Irrefl Entry.before := ⟨fun entry => by simp [Entry.before]⟩

instance : IsOrderConnected Entry Entry.before where
  conn first middle last before := by
    simp only [Entry.before] at *
    omega

end Entry

namespace Queue

variable {Waker : Type u} {queue : Queue Waker}

/-- What the entries of the heap, in whatever order, and the slots have to do with each
other. -/
structure Allotted (entries : List Entry) (queue : Queue Waker) : Prop where
  slots_nodup : (entries.map (·.slot)).Nodup
  seqs_nodup : (entries.map (·.seq)).Nodup
  seq_lt : ∀ entry ∈ entries, entry.seq < queue.nextSeq
  free_nodup : queue.freeSlots.Nodup
  in_use : ∀ entry ∈ entries, entry.slot < queue.slotCount ∧ entry.slot ∉ queue.freeSlots
  free : ∀ index ∈ queue.freeSlots, index < queue.slotCount ∧
    (queue.slots index).cancelled = false ∧ 0 < (queue.slots index).freed
  covered : ∀ index < queue.slotCount, index ∈ queue.freeSlots ∨
    ∃ entry ∈ entries, entry.slot = index
  beyond : ∀ index, queue.slotCount ≤ index → queue.slots index = {}

structure Sound (queue : Queue Waker) : Prop where
  heap : IsHeap Entry.before queue.heap
  allotted : queue.Allotted queue.heap
  cancelled : queue.cancelled =
    queue.heap.countP fun entry => (queue.slots entry.slot).cancelled
  closed : queue.closed → queue.heap = []

/-- The entries that are not cancelled, with the ids that name them. -/
def Names (queue : Queue Waker) (ref : Ref) (entry : Entry) : Prop :=
  entry.slot = ref.index ∧ (queue.slots entry.slot).cancelled = false ∧
    (queue.slots entry.slot).freed = ref.freed

instance (queue : Queue Waker) (ref : Ref) (entry : Entry) : Decidable (queue.Names ref entry) :=
  inferInstanceAs (Decidable (entry.slot = ref.index ∧
    (queue.slots entry.slot).cancelled = false ∧ (queue.slots entry.slot).freed = ref.freed))

/-- The timer that an id names, if it is live. -/
def live (queue : Queue Waker) (ref : Ref) : Option (Timer Waker) :=
  (queue.heap.find? (queue.Names ref)).map queue.timer

def Holds (entries : List Entry) (queue : Queue Waker) (ref : Ref) (timer : Timer Waker) : Prop :=
  ∃ entry ∈ entries, queue.Names ref entry ∧ queue.timer entry = timer

theorem live_eq_some {timer : Timer Waker} (allotted : queue.Allotted queue.heap) :
    queue.live ref = some timer ↔ queue.Holds queue.heap ref timer := by
  constructor
  · intro found
    rcases Option.map_eq_some_iff.mp found with ⟨entry, first, rfl⟩
    exact ⟨entry, List.mem_of_find?_eq_some first, by simpa using List.find?_some first, rfl⟩
  · rintro ⟨entry, inside, names, rfl⟩
    have there : (queue.heap.find? (queue.Names ref)).isSome :=
      List.find?_isSome.mpr ⟨entry, inside, decide_eq_true names⟩
    rcases Option.isSome_iff_exists.mp there with ⟨other, found⟩
    have fits : queue.Names ref other := by simpa using List.find?_some found
    have same : other = entry :=
      List.inj_on_of_nodup_map allotted.slots_nodup (List.mem_of_find?_eq_some found) inside
        (fits.1.trans names.1.symm)
    rw [live, found, same]
    rfl

theorem Allotted.perm (allotted : queue.Allotted entries) (same : entries.Perm others) :
    queue.Allotted others where
  slots_nodup := (same.map _).nodup_iff.mp allotted.slots_nodup
  seqs_nodup := (same.map _).nodup_iff.mp allotted.seqs_nodup
  seq_lt := fun entry inside => allotted.seq_lt entry (same.mem_iff.mpr inside)
  free_nodup := allotted.free_nodup
  in_use := fun entry inside => allotted.in_use entry (same.mem_iff.mpr inside)
  free := allotted.free
  covered := by
    intro index bound
    refine (allotted.covered index bound).imp_right ?_
    rintro ⟨entry, inside, here⟩
    exact ⟨entry, same.mem_iff.mp inside, here⟩
  beyond := allotted.beyond

theorem Allotted.of_same {next : Queue Waker} (allotted : queue.Allotted entries)
    (slots : next.slots = queue.slots) (slotCount : next.slotCount = queue.slotCount)
    (freeSlots : next.freeSlots = queue.freeSlots) (nextSeq : next.nextSeq = queue.nextSeq) :
    next.Allotted entries := by
  rcases allotted with ⟨slots_nodup, seqs_nodup, seq_lt, free_nodup, in_use, free, covered, beyond⟩
  constructor
  all_goals try simp only [slots, slotCount, freeSlots, nextSeq]
  all_goals assumption

theorem Holds.perm (same : entries.Perm others) {timer : Timer Waker} :
    queue.Holds entries ref timer ↔ queue.Holds others ref timer := by
  simp only [Holds, same.mem_iff]

/-! ## Freeing a slot -/

theorem freeSlot_of_ne (different : other ≠ index) :
    (queue.freeSlot index).slots other = queue.slots other :=
  update_of_ne different ..

theorem freeSlot_self :
    (queue.freeSlot index).slots index = { freed := (queue.slots index).freed + 1 } :=
  update_self ..

section

variable (allotted : queue.Allotted (entry :: rest))

include allotted

theorem Allotted.other_slot (inside : other ∈ rest) : other.slot ≠ entry.slot := by
  have apart := (List.nodup_cons.mp allotted.slots_nodup).1
  intro same
  exact apart (List.mem_map.mpr ⟨other, inside, same⟩)

theorem Allotted.freeSlot : (queue.freeSlot entry.slot).Allotted rest where
  slots_nodup := (List.nodup_cons.mp allotted.slots_nodup).2
  seqs_nodup := (List.nodup_cons.mp allotted.seqs_nodup).2
  seq_lt := fun other inside => allotted.seq_lt other (List.mem_cons_of_mem _ inside)
  free_nodup := List.nodup_cons.mpr
    ⟨(allotted.in_use entry List.mem_cons_self).2, allotted.free_nodup⟩
  in_use := by
    intro other inside
    have before := allotted.in_use other (List.mem_cons_of_mem _ inside)
    refine ⟨before.1, ?_⟩
    intro freed
    rcases List.mem_cons.mp freed with same | there
    · exact allotted.other_slot inside same
    · exact before.2 there
  free := by
    intro index freed
    rcases List.mem_cons.mp freed with rfl | there
    · rw [freeSlot_self]
      exact ⟨(allotted.in_use entry List.mem_cons_self).1, rfl, Nat.succ_pos _⟩
    · have different : index ≠ entry.slot := by
        rintro rfl
        exact (allotted.in_use entry List.mem_cons_self).2 there
      rw [freeSlot_of_ne different]
      exact allotted.free index there
  covered := by
    intro index bound
    rcases allotted.covered index bound with free | ⟨other, inside, here⟩
    · exact .inl (List.mem_cons_of_mem _ free)
    · rcases List.mem_cons.mp inside with rfl | later
      · exact .inl (here ▸ List.mem_cons_self)
      · exact .inr ⟨other, later, here⟩
  beyond := by
    intro index outside
    rw [freeSlot_of_ne]
    · exact allotted.beyond index outside
    · rintro rfl
      exact Nat.not_lt.mpr outside (allotted.in_use entry List.mem_cons_self).1

theorem Allotted.freeSlot_holds {timer : Timer Waker} :
    (queue.freeSlot entry.slot).Holds rest ref timer ↔
      queue.Holds (entry :: rest) ref timer ∧ ¬ queue.Names ref entry := by
  have kept : ∀ other ∈ rest,
      (queue.freeSlot entry.slot).slots other.slot = queue.slots other.slot :=
    fun other inside => freeSlot_of_ne (allotted.other_slot inside)
  constructor
  · rintro ⟨other, inside, names, rfl⟩
    have same := kept other inside
    rw [Names, same] at names
    refine ⟨⟨other, List.mem_cons_of_mem _ inside, names, ?_⟩, ?_⟩
    · rw [Queue.timer, Queue.timer, same]
    · intro mine
      exact allotted.other_slot inside (names.1.trans mine.1.symm)
  · rintro ⟨⟨other, inside, names, rfl⟩, notMine⟩
    rcases List.mem_cons.mp inside with rfl | later
    · exact absurd names notMine
    · have same := kept other later
      refine ⟨other, later, ?_, ?_⟩
      · rwa [Names, same]
      · rw [Queue.timer, Queue.timer, same]

theorem Allotted.freeSlot_holds_of_cancelled (cancelled : (queue.slots entry.slot).cancelled)
    {timer : Timer Waker} :
    (queue.freeSlot entry.slot).Holds rest ref timer ↔ queue.Holds (entry :: rest) ref timer := by
  rw [allotted.freeSlot_holds, and_iff_left]
  intro names
  rw [names.2.1] at cancelled
  cases cancelled

theorem Allotted.freeSlot_count :
    (rest.countP fun other => ((queue.freeSlot entry.slot).slots other.slot).cancelled) +
        (queue.slots entry.slot).cancelled.toNat =
      (entry :: rest).countP fun other => (queue.slots other.slot).cancelled := by
  have same : (rest.countP fun other => ((queue.freeSlot entry.slot).slots other.slot).cancelled) =
      rest.countP fun other => (queue.slots other.slot).cancelled := by
    apply List.countP_congr
    intro other inside
    rw [freeSlot_of_ne (allotted.other_slot inside)]
  rw [same, List.countP_cons]
  cases (queue.slots entry.slot).cancelled <;> rfl

end

/-! ## The operations -/

structure Same (queue next : Queue Waker) : Prop where
  nextSeq : next.nextSeq = queue.nextSeq
  slotCount : next.slotCount = queue.slotCount
  waiting : next.waiting = queue.waiting
  closed : next.closed = queue.closed

theorem Same.refl (queue : Queue Waker) : queue.Same queue := ⟨rfl, rfl, rfl, rfl⟩

/-- An id that is held is stale by now, or its entry is still in the heap. -/
def Held (entries : List Entry) (queue : Queue Waker) (ref : Ref) : Prop :=
  ref.freed < (queue.slots ref.index).freed ∨
    (queue.slots ref.index).freed = ref.freed ∧ ∃ entry ∈ entries, entry.slot = ref.index

theorem Held.perm (same : entries.Perm others) (held : queue.Held entries ref) :
    queue.Held others ref := by
  refine held.imp_right ?_
  rintro ⟨freed, entry, inside, here⟩
  exact ⟨freed, entry, same.mem_iff.mp inside, here⟩

theorem Held.freeSlot (held : queue.Held (entry :: rest) ref) :
    (queue.freeSlot entry.slot).Held rest ref := by
  by_cases here : ref.index = entry.slot
  · left
    rw [here, freeSlot_self]
    rcases held with stale | ⟨current, -⟩
    · rw [here] at stale
      exact Nat.lt_succ_of_lt stale
    · rw [here] at current
      exact current ▸ Nat.lt_succ_self _
  · rw [Held, freeSlot_of_ne here]
    refine held.imp_right ?_
    rintro ⟨freed, other, inside, there⟩
    rcases List.mem_cons.mp inside with rfl | later
    · exact absurd there.symm here
    · exact ⟨freed, other, later, there⟩

/-- The loop of a sweep frees the slots of the cancelled entries and keeps the others. -/
theorem Allotted.sweepEntries (allotted : queue.Allotted (entries ++ kept)) :
    (queue.sweepEntries entries).2.Allotted ((queue.sweepEntries entries).1 ++ kept) ∧
      (∀ ref timer, (queue.sweepEntries entries).2.Holds ((queue.sweepEntries entries).1 ++ kept)
        ref timer ↔ queue.Holds (entries ++ kept) ref timer) ∧
      (∀ ref, queue.Held (entries ++ kept) ref →
        (queue.sweepEntries entries).2.Held ((queue.sweepEntries entries).1 ++ kept) ref) ∧
      (∀ entry ∈ kept, (queue.sweepEntries entries).2.slots entry.slot = queue.slots entry.slot) ∧
      (∀ entry ∈ (queue.sweepEntries entries).1,
        ((queue.sweepEntries entries).2.slots entry.slot).cancelled = false) ∧
      queue.Same (queue.sweepEntries entries).2 := by
  induction entries generalizing queue kept with
  | nil =>
    exact ⟨allotted, fun _ _ => Iff.rfl, fun _ held => held, fun _ _ => rfl, nofun, .refl queue⟩
  | cons entry rest induction =>
    simp only [Queue.sweepEntries]
    split
    · rename_i cancelled
      have freed := allotted.freeSlot
      rcases induction freed with ⟨fits, holds, held, same, none, fields⟩
      refine ⟨fits, ?_, ?_, ?_, none,
        { fields with }⟩
      · intro ref timer
        rw [holds]
        exact allotted.freeSlot_holds_of_cancelled cancelled
      · exact fun ref before => held ref before.freeSlot
      · intro other inside
        rw [same other inside]
        exact freeSlot_of_ne (allotted.other_slot (List.mem_append_right _ inside))
    · rename_i live
      have moved : (entry :: rest ++ kept).Perm (rest ++ entry :: kept) :=
        List.perm_middle.symm
      rcases induction (allotted.perm moved) with ⟨fits, holds, held, same, none, fields⟩
      have back : ∀ {first : List Entry}, (first ++ entry :: kept).Perm (entry :: first ++ kept) :=
        List.perm_middle
      refine ⟨fits.perm back, ?_, ?_, ?_, ?_, fields⟩
      · intro ref timer
        rw [← Holds.perm back, holds, Holds.perm moved]
      · exact fun ref before => (held ref (before.perm moved)).perm back
      · exact fun other inside => same other (List.mem_cons_of_mem _ inside)
      · intro other inside
        rcases List.mem_cons.mp inside with rfl | later
        · rw [same other List.mem_cons_self]
          simpa using live
        · exact none other later

variable (library : HeapLibrary Entry Entry.before)

theorem live_eq_of_holds {next : Queue Waker} (allotted : queue.Allotted queue.heap)
    (later : next.Allotted next.heap)
    (holds : ∀ ref timer, next.Holds next.heap ref timer ↔ queue.Holds queue.heap ref timer)
    (ref : Ref) : next.live ref = queue.live ref := by
  apply Option.ext
  intro timer
  rw [live_eq_some later, holds, live_eq_some allotted]

theorem Sound.sweep (sound : queue.Sound) :
    (queue.sweep library).Sound ∧ (∀ ref, (queue.sweep library).live ref = queue.live ref) ∧
      (∀ ref, queue.Held queue.heap ref →
        (queue.sweep library).Held (queue.sweep library).heap ref) ∧
      queue.Same (queue.sweep library) := by
  have start : queue.Allotted (queue.heap ++ []) := by
    rw [List.append_nil]
    exact sound.allotted
  rcases start.sweepEntries with ⟨fits, holds, held, -, none, fields⟩
  rw [List.append_nil] at fits
  simp only [List.append_nil] at holds held
  have made := library.make_perm (queue.sweepEntries queue.heap).1
  have allotted : (queue.sweep library).Allotted (queue.sweep library).heap :=
    (fits.perm made.symm).of_same rfl rfl rfl rfl
  refine ⟨⟨library.make_heap _, allotted, ?_, ?_⟩, ?_, ?_, ?_⟩
  · symm
    rw [Queue.sweep, List.countP_eq_zero]
    intro entry inside
    simp [none entry (made.mem_iff.mp inside)]
  · intro closed
    have empty := sound.closed (fields.closed ▸ closed)
    simp only [Queue.sweep, empty, Queue.sweepEntries]
    exact List.Perm.eq_nil (library.make_perm [])
  · apply live_eq_of_holds sound.allotted allotted
    intro ref timer
    rw [← holds]
    exact Holds.perm made
  · exact fun ref before => (held ref before).perm made.symm
  · exact { fields with }

def mark (index : Nat) (queue : Queue Waker) : Queue Waker :=
  { queue with
    slots := update queue.slots index
      { queue.slots index with waker := none, cancelled := true }
    cancelled := queue.cancelled + 1 }

omit library in
theorem mark_freed (index other : Nat) :
    ((queue.mark index).slots other).freed = (queue.slots other).freed := by
  by_cases here : other = index
  · subst here
    simp only [mark, update_self]
  · simp only [mark, update_of_ne here]

omit library in
theorem mark_of_ne (different : other ≠ index) :
    (queue.mark index).slots other = queue.slots other :=
  update_of_ne different ..

omit library in
theorem Sound.mark (sound : queue.Sound) (inside : entry ∈ queue.heap)
    (live : (queue.slots entry.slot).cancelled = false) : (queue.mark entry.slot).Sound := by
  have allotted := sound.allotted
  refine ⟨sound.heap, ?_, ?_, sound.closed⟩
  · refine { allotted with free := ?_, beyond := ?_ }
    · intro index free
      have different : index ≠ entry.slot := by
        rintro rfl
        exact (allotted.in_use entry inside).2 free
      rw [mark_of_ne different]
      exact allotted.free index free
    · intro index outside
      rw [mark_of_ne]
      · exact allotted.beyond index outside
      · rintro rfl
        exact Nat.not_lt.mpr outside (allotted.in_use entry inside).1
  · have change := countP_change (fun other => (queue.slots other.slot).cancelled)
      (fun other => ((queue.mark entry.slot).slots other.slot).cancelled)
      (List.Nodup.of_map _ allotted.slots_nodup) inside (by
        intro other there different
        rw [mark_of_ne]
        exact fun same => different
          (List.inj_on_of_nodup_map allotted.slots_nodup there inside same))
    have now : ((queue.mark entry.slot).slots entry.slot).cancelled = true := by
      simp only [Queue.mark, update_self]
    rw [live, now, ← sound.cancelled, Bool.toNat_true, Bool.toNat_false] at change
    exact change.symm

omit library in
theorem Sound.mark_live (sound : queue.Sound) (inside : entry ∈ queue.heap)
    (live : (queue.slots entry.slot).cancelled = false) (ref : Ref) :
    (queue.mark entry.slot).live ref =
      if ref = ⟨entry.slot, (queue.slots entry.slot).freed⟩ then none else queue.live ref := by
  have marked := sound.mark inside live
  apply Option.ext
  intro timer
  rw [live_eq_some marked.allotted]
  split
  · rename_i mine
    subst mine
    simp only [reduceCtorEq, iff_false]
    rintro ⟨other, there, names, -⟩
    have cancelled := names.2.1
    rw [names.1] at cancelled
    simp only [Queue.mark, update_self, Bool.true_eq_false] at cancelled
  · rename_i different
    rw [live_eq_some sound.allotted]
    constructor
    · rintro ⟨other, there, names, rfl⟩
      have apart : other.slot ≠ entry.slot := by
        intro same
        have cancelled := names.2.1
        rw [same] at cancelled
        simp only [Queue.mark, update_self, Bool.true_eq_false] at cancelled
      rw [Names, mark_of_ne apart] at names
      refine ⟨other, there, names, ?_⟩
      rw [Queue.timer, Queue.timer, mark_of_ne apart]
    · rintro ⟨other, there, names, rfl⟩
      have apart : other.slot ≠ entry.slot := by
        intro same
        apply different
        rw [Ref.mk.injEq]
        exact ⟨names.1.symm.trans same, by rw [← same, names.2.2]⟩
      refine ⟨other, there, ?_, ?_⟩
      · rwa [Names, mark_of_ne apart]
      · rw [Queue.timer, Queue.timer, mark_of_ne apart]

omit library in
theorem mark_held (held : queue.Held entries ref) : (queue.mark index).Held entries ref := by
  rwa [Held, mark_freed]

omit library in
/-- The generations tell a stale id from the current one, unless they have gone round. -/
theorem generation_eq {slot : Slot Waker} {ref : Ref} (old : ref.freed ≤ slot.freed)
    (sparing : slot.freed < ref.freed + 2 ^ 32) :
    slot.generation = ref.id.generation ↔ slot.freed = ref.freed := by
  constructor
  · intro same
    have words := congrArg BitVec.toNat same
    simp only [Slot.generation, Ref.id, BitVec.toNat_ofNat] at words
    omega
  · intro same
    rw [Slot.generation, Ref.id, same]

omit library in
theorem not_live_of_stale (allotted : queue.Allotted queue.heap)
    (stale : (queue.slots ref.index).freed ≠ ref.freed ∨ (queue.slots ref.index).cancelled ∨
      queue.slotCount ≤ ref.index) : queue.live ref = none := by
  rw [Option.eq_none_iff_forall_ne_some]
  intro timer live
  rcases (live_eq_some allotted).mp live with ⟨entry, inside, names, -⟩
  have used := (allotted.in_use entry inside).1
  rw [names.1] at used
  have current := names.2
  rw [names.1] at current
  rcases stale with freed | cancelled | outside
  · exact freed current.2
  · rw [current.1] at cancelled
    cases cancelled
  · exact Nat.not_lt.mpr outside used

/-- A cancel does nothing, or marks the slot of a live timer and sweeps the heap at times. -/
theorem cancel_cases (sound : queue.Sound)
    (held : queue.Held queue.heap ref ∨ queue.slotCount ≤ ref.index)
    (sparing : (queue.slots ref.index).freed < ref.freed + 2 ^ 32) :
    queue.cancel library ref.id = queue ∧ queue.live ref = none ∨
      ∃ entry ∈ queue.heap, (queue.slots entry.slot).cancelled = false ∧
        ref = ⟨entry.slot, (queue.slots entry.slot).freed⟩ ∧
          (queue.cancel library ref.id = queue.mark entry.slot ∨
            queue.cancel library ref.id = (queue.mark entry.slot).sweep library) := by
  have allotted := sound.allotted
  simp only [Queue.cancel]
  split
  · rename_i outside
    exact .inl ⟨rfl, not_live_of_stale allotted (.inr (.inr outside))⟩
  · rename_i inside
    replace held : queue.Held queue.heap ref := held.resolve_right inside
    have old : ref.freed ≤ (queue.slots ref.index).freed := by
      rcases held with stale | ⟨current, -⟩
      · exact Nat.le_of_lt stale
      · exact Nat.le_of_eq current.symm
    have generation := generation_eq old sparing
    split
    · rename_i stale
      refine .inl ⟨rfl, not_live_of_stale allotted ?_⟩
      rcases stale with different | cancelled
      · exact .inl fun same => different (generation.mpr same)
      · exact .inr (.inl cancelled)
    · rename_i matched
      rw [not_or, not_not, Bool.not_eq_true] at matched
      have current := generation.mp matched.1
      rcases held with stale | ⟨-, entry, there, here⟩
      · omega
      · refine .inr ⟨entry, there, ?_, ?_, ?_⟩
        · rw [here]
          exact matched.2
        · rw [here, current]
        · rw [here]
          split
          · exact .inr rfl
          · exact .inl rfl

theorem Sound.cancel (sound : queue.Sound)
    (held : queue.Held queue.heap ref ∨ queue.slotCount ≤ ref.index)
    (sparing : (queue.slots ref.index).freed < ref.freed + 2 ^ 32) :
    (queue.cancel library ref.id).Sound ∧
      (∀ other, (queue.cancel library ref.id).live other =
        if other = ref then none else queue.live other) ∧
      (∀ other, queue.Held queue.heap other →
        (queue.cancel library ref.id).Held (queue.cancel library ref.id).heap other) ∧
      queue.Same (queue.cancel library ref.id) := by
  rcases cancel_cases library sound held sparing with
    ⟨same, dead⟩ | ⟨entry, inside, live, rfl, marked | swept⟩
  · rw [same]
    refine ⟨sound, ?_, fun _ held => held, .refl queue⟩
    intro other
    split
    · rename_i mine
      rw [mine, dead]
    · rfl
  · rw [marked]
    exact ⟨sound.mark inside live, sound.mark_live inside live, fun _ => mark_held,
      ⟨rfl, rfl, rfl, rfl⟩⟩
  · rw [swept]
    rcases (sound.mark inside live).sweep library with ⟨sound', same, held', fields⟩
    refine ⟨sound', ?_, fun other before => held' other (mark_held before),
      { fields with }⟩
    intro other
    rw [same, sound.mark_live inside live]

/-! ## Inserting -/

structure Taken (entries : List Entry) (queue : Queue Waker) (index : Nat)
    (next : Queue Waker) : Prop where
  unused : ∀ entry ∈ entries, entry.slot ≠ index
  clear : (queue.slots index).cancelled = false
  /-- Nobody holds an id of the slot's generation. -/
  unnamed : ∀ ref, queue.Held entries ref → ref.index = index →
    ref.freed < (queue.slots index).freed
  slots : next.slots = queue.slots
  bound : index < next.slotCount
  grows : queue.slotCount ≤ next.slotCount
  free : ∀ other, other ∈ next.freeSlots ↔ other ∈ queue.freeSlots ∧ other ≠ index
  free_nodup : next.freeSlots.Nodup
  covered : ∀ other < next.slotCount, other < queue.slotCount ∨ other = index
  nextSeq : next.nextSeq = queue.nextSeq
  waiting : next.waiting = queue.waiting
  closed : next.closed = queue.closed
  cancelled : next.cancelled = queue.cancelled

omit library in
theorem Allotted.takeSlot (allotted : queue.Allotted entries) :
    queue.Taken entries queue.takeSlot.1 queue.takeSlot.2 := by
  have nodup := allotted.free_nodup
  have unnamed : ∀ index, (∀ entry ∈ entries, entry.slot ≠ index) → ∀ ref,
      queue.Held entries ref → ref.index = index → ref.freed < (queue.slots index).freed := by
    rintro index unused ref (stale | ⟨-, entry, inside, here⟩) rfl
    · exact stale
    · exact absurd here (unused entry inside)
  cases free : queue.freeSlots with
  | cons index rest =>
    have taken : queue.takeSlot = (index, { queue with freeSlots := rest }) := by
      rw [Queue.takeSlot, free]
    rw [free, List.nodup_cons] at nodup
    have mine := allotted.free index (by rw [free]; exact List.mem_cons_self)
    have unused : ∀ entry ∈ entries, entry.slot ≠ index := by
      rintro entry inside rfl
      apply (allotted.in_use entry inside).2
      rw [free]
      exact List.mem_cons_self
    rw [taken]
    refine ⟨unused, mine.2.1, unnamed index unused, rfl, mine.1, le_refl _, ?_, nodup.2,
      fun _ bound => .inl bound, rfl, rfl, rfl, rfl⟩
    intro other
    rw [free, List.mem_cons]
    constructor
    · intro later
      refine ⟨.inr later, ?_⟩
      rintro rfl
      exact nodup.1 later
    · rintro ⟨rfl | later, different⟩
      · exact absurd rfl different
      · exact later
  | nil =>
    have taken : queue.takeSlot = (queue.slotCount, { queue with
        slotCount := queue.slotCount + 1
        slots := update queue.slots queue.slotCount {} }) := by
      rw [Queue.takeSlot, free]
    have new := allotted.beyond queue.slotCount (le_refl _)
    have unused : ∀ entry ∈ entries, entry.slot ≠ queue.slotCount :=
      fun entry inside => Nat.ne_of_lt (allotted.in_use entry inside).1
    rw [taken]
    refine ⟨unused, by rw [new], unnamed _ unused, ?_, Nat.lt_succ_self _, Nat.le_succ _, ?_, nodup,
      ?_, rfl, rfl, rfl, rfl⟩
    · exact update_eq_self_iff.mpr new.symm
    · simp [free]
    · intro other bound
      exact Nat.lt_or_eq_of_le (Nat.le_of_lt_succ bound)

def inserted (queue taken : Queue Waker) (index : Nat) (deadline : Int) (waker : Option Waker) :
    Queue Waker :=
  { taken with
    slots := update taken.slots index { taken.slots index with waker }
    heap := library.push (queue.heap ++ [⟨deadline, queue.nextSeq, index⟩])
    nextSeq := queue.nextSeq + 1 }

section Insert

variable {index : Nat} {taken : Queue Waker} (sound : queue.Sound)
  (takes : queue.Taken queue.heap index taken) (deadline : Int) (waker : Option Waker)

theorem inserted_perm : (queue.inserted library taken index deadline waker).heap.Perm
    (⟨deadline, queue.nextSeq, index⟩ :: queue.heap) :=
  (library.push_perm _).trans List.perm_append_comm

include takes in
theorem Taken.slot_of_ne (different : other ≠ index) :
    (queue.inserted library taken index deadline waker).slots other = queue.slots other := by
  rw [inserted, takes.slots]
  exact update_of_ne different ..

include takes in
theorem Taken.slot_self : (queue.inserted library taken index deadline waker).slots index =
    { queue.slots index with waker } := by
  rw [inserted, takes.slots]
  exact update_self ..

include takes in
theorem Taken.held (held : queue.Held queue.heap ref) :
    (queue.inserted library taken index deadline waker).Held
      (queue.inserted library taken index deadline waker).heap ref := by
  by_cases here : ref.index = index
  · left
    have stale := takes.unnamed ref held here
    rw [here, takes.slot_self]
    exact stale
  · rw [Held, takes.slot_of_ne library deadline waker here]
    refine held.imp_right ?_
    rintro ⟨freed, entry, inside, there⟩
    refine ⟨freed, entry, ?_, there⟩
    rw [(inserted_perm library deadline waker).mem_iff]
    exact List.mem_cons_of_mem _ inside

include sound takes in
theorem Sound.insert_allotted : (queue.inserted library taken index deadline waker).Allotted
    (⟨deadline, queue.nextSeq, index⟩ :: queue.heap) := by
  have allotted := sound.allotted
  constructor
  case slots_nodup =>
    rw [List.map_cons, List.nodup_cons]
    refine ⟨?_, allotted.slots_nodup⟩
    intro inside
    rcases List.mem_map.mp inside with ⟨entry, there, same⟩
    exact takes.unused entry there same
  case seqs_nodup =>
    rw [List.map_cons, List.nodup_cons]
    refine ⟨?_, allotted.seqs_nodup⟩
    intro inside
    rcases List.mem_map.mp inside with ⟨entry, there, same⟩
    exact absurd (allotted.seq_lt entry there) (by rw [same]; exact Nat.lt_irrefl _)
  case seq_lt =>
    intro entry inside
    rcases List.mem_cons.mp inside with rfl | there
    · exact Nat.lt_succ_self _
    · exact Nat.lt_succ_of_lt (allotted.seq_lt entry there)
  case free_nodup => exact takes.free_nodup
  case in_use =>
    intro entry inside
    rcases List.mem_cons.mp inside with rfl | there
    · exact ⟨takes.bound, fun free => ((takes.free index).mp free).2 rfl⟩
    · have used := allotted.in_use entry there
      exact ⟨Nat.lt_of_lt_of_le used.1 takes.grows,
        fun free => used.2 ((takes.free entry.slot).mp free).1⟩
  case free =>
    intro other free
    have before := (takes.free other).mp free
    rw [takes.slot_of_ne library deadline waker before.2]
    have known := allotted.free other before.1
    exact ⟨Nat.lt_of_lt_of_le known.1 takes.grows, known.2⟩
  case covered =>
    intro other bound
    by_cases here : other = index
    · exact .inr ⟨_, List.mem_cons_self, here.symm⟩
    · rcases allotted.covered other ((takes.covered other bound).resolve_right here) with
        free | ⟨entry, inside, there⟩
      · exact .inl ((takes.free other).mpr ⟨free, here⟩)
      · exact .inr ⟨entry, List.mem_cons_of_mem _ inside, there⟩
  case beyond =>
    intro other outside
    have different : other ≠ index := by
      rintro rfl
      exact Nat.not_lt.mpr outside takes.bound
    rw [takes.slot_of_ne library deadline waker different]
    exact allotted.beyond other (Nat.le_trans takes.grows outside)

include sound takes in
theorem Sound.insert (isOpen : queue.closed = false) :
    (queue.inserted library taken index deadline waker).Sound := by
  have perm : (queue.inserted library taken index deadline waker).heap.Perm _ :=
    inserted_perm library deadline waker
  refine ⟨library.push_heap _ _ sound.heap,
    (sound.insert_allotted library takes deadline waker).perm perm.symm, ?_, ?_⟩
  · rw [perm.countP_eq, List.countP_cons, takes.slot_self]
    simp only [takes.clear, Bool.false_eq_true, if_false, Nat.add_zero]
    refine (takes.cancelled.trans sound.cancelled).trans (List.countP_congr ?_)
    intro entry inside
    rw [takes.slot_of_ne library deadline waker (takes.unused entry inside)]
  · intro closed
    rw [show (queue.inserted library taken index deadline waker).closed = taken.closed from rfl,
      takes.closed, isOpen] at closed
    cases closed

include sound takes in
theorem Sound.insert_live (isOpen : queue.closed = false) (ref : Ref) :
    (queue.inserted library taken index deadline waker).live ref =
      if ref = ⟨index, (queue.slots index).freed⟩ then some ⟨deadline, queue.nextSeq, waker⟩
      else queue.live ref := by
  have later := sound.insert library takes deadline waker isOpen
  apply Option.ext
  intro timer
  rw [live_eq_some later.allotted, Holds.perm (inserted_perm library deadline waker)]
  have other : ∀ entry ∈ queue.heap,
      (queue.inserted library taken index deadline waker).slots entry.slot =
        queue.slots entry.slot :=
    fun entry inside => takes.slot_of_ne library deadline waker (takes.unused entry inside)
  split
  · rename_i mine
    subst mine
    rw [Option.some.injEq]
    constructor
    · rintro ⟨entry, inside, names, rfl⟩
      rcases List.mem_cons.mp inside with rfl | there
      · rw [Queue.timer, takes.slot_self]
      · exact absurd names.1 (takes.unused entry there)
    · rintro rfl
      refine ⟨_, List.mem_cons_self, ⟨rfl, ?_, ?_⟩, ?_⟩
      · rw [takes.slot_self]
        exact takes.clear
      · rw [takes.slot_self]
      · rw [Queue.timer, takes.slot_self]
  · rename_i different
    rw [live_eq_some sound.allotted]
    constructor
    · rintro ⟨entry, inside, names, rfl⟩
      rcases List.mem_cons.mp inside with rfl | there
      · exfalso
        apply different
        have freed := names.2.2
        rw [takes.slot_self] at freed
        rw [Ref.mk.injEq]
        exact ⟨names.1.symm, freed.symm⟩
      · rw [Names, other entry there] at names
        refine ⟨entry, there, names, ?_⟩
        rw [Queue.timer, Queue.timer, other entry there]
    · rintro ⟨entry, there, names, rfl⟩
      refine ⟨entry, List.mem_cons_of_mem _ there, ?_, ?_⟩
      · rwa [Names, other entry there]
      · rw [Queue.timer, Queue.timer, other entry there]

end Insert

end Queue

end CoroRuntime.Timers
