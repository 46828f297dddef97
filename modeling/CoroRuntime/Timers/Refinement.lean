import CoroRuntime.Timers.Firing

/-! # The timer queue is a set of timers

What callers and wakers see of a timer queue, in any interleaving, is a history of a set
of timers. What has become of each timer follows from that alone.
-/

namespace CoroRuntime.Timers

open Foundation
open Function (update update_self update_of_ne update_apply)

variable {Waker : Type u} [DecidableEq Waker] (library : HeapLibrary Entry Entry.before)

def Firing.owed {Waker : Type u} : Firing Waker → List (Timer Waker)
  | .waking rest _ => rest
  | _ => []

namespace State

def timerMap (state : State Waker) : TimerMap Waker where
  live := state.queue.live
  alive := state.alive
  clock := state.clock
  inserted := state.queue.nextSeq
  closed := state.queue.closed
  issued := state.issued
  owed party := (state.firing party).owed

structure Refines (state : State Waker) : Prop where
  sound : state.queue.Sound
  held : ∀ ref ∈ state.issued, state.queue.Held state.queue.heap ref ∨
    state.queue.closed ∧ state.queue.slotCount ≤ ref.index
  run : TimerMap.Run state.history state.timerMap

omit [DecidableEq Waker] in
theorem owed_update {firing : Party → Firing Waker} :
    (fun other => (update firing party next other).owed) =
      update (fun other => (firing other).owed) party next.owed := by
  funext other
  by_cases here : other = party
  · subst here
    rw [update_self, update_self]
  · rw [update_of_ne here, update_of_ne here]

omit [DecidableEq Waker] in
theorem owed_update_of_same {firing : Party → Firing Waker} (same : next.owed = (firing party).owed)
    (other : Party) : (update firing party next other).owed = (firing other).owed := by
  by_cases here : other = party
  · subst here
    rw [update_self, same]
  · rw [update_of_ne here]

variable {state : State Waker}

section

variable (refines : state.Refines)

include refines

theorem Refines.reject (closed : state.queue.closed) (deadline : Int)
    (waker : Option Waker) : (state.insert library deadline waker).Refines := by
  have result :
      state.queue.insert library deadline waker = (⟨⟨0, 0⟩, false, true⟩, state.queue) := by
    rw [Queue.insert, if_pos closed]
  have next : state.insert library deadline waker = { state with
      waiter := state.waiter.map fun wait => { wait with unparked := wait.unparked || false }
      issued := ⟨0, 0⟩ :: state.issued
      history := .rejected :: state.history } := by
    simp only [State.insert, result, if_true]
  rw [next]
  refine ⟨refines.sound, ?_, .cons refines.run (.reject closed)⟩
  intro ref inside
  rcases List.mem_cons.mp inside with rfl | there
  · by_cases none : state.queue.slotCount = 0
    · exact .inr ⟨closed, Nat.le_of_eq none⟩
    · left
      left
      -- every slot has been freed by now
      have empty := refines.sound.closed closed
      rcases refines.sound.allotted.covered 0 (Nat.pos_of_ne_zero none) with
        free | ⟨entry, used, -⟩
      · exact (refines.sound.allotted.free 0 free).2.2
      · rw [empty] at used
        cases used
  · exact refines.held ref there

theorem Refines.insert (isOpen : state.queue.closed = false)
    (deadline : Int) (waker : Option Waker) :
    (state.insert library deadline waker).Refines := by
  have sound := refines.sound
  have takes := sound.allotted.takeSlot
  generalize indexIs : state.queue.takeSlot.1 = index at takes
  generalize takenIs : state.queue.takeSlot.2 = taken at takes
  have self := takes.slot_self library deadline waker
  generalize unpark : (state.queue.insert library deadline waker).1.unpark = unparked
  have result : state.queue.insert library deadline waker =
      (⟨⟨index, (state.queue.slots index).generation⟩, unparked, false⟩,
        state.queue.inserted library taken index deadline waker) := by
    rw [← unpark, Queue.insert, isOpen, ← takes.slots, ← indexIs, ← takenIs]
    rfl
  have next : state.insert library deadline waker = { state with
      queue := state.queue.inserted library taken index deadline waker
      waiter := state.waiter.map fun wait => { wait with unparked := wait.unparked || unparked }
      issued := ⟨index, (state.queue.slots index).freed⟩ :: state.issued
      history := .inserted ⟨index, (state.queue.slots index).freed⟩
        ⟨deadline, state.queue.nextSeq, waker⟩ :: state.history } := by
    simp only [State.insert, result, self, Bool.false_eq_true, if_false]
  rw [next]
  refine ⟨sound.insert library takes deadline waker isOpen, ?_, ?_⟩
  · intro ref inside
    left
    rcases List.mem_cons.mp inside with rfl | there
    · right
      refine ⟨by rw [self], ⟨deadline, state.queue.nextSeq, index⟩, ?_, rfl⟩
      rw [(Queue.inserted_perm library deadline waker).mem_iff]
      exact List.mem_cons_self
    · refine takes.held library deadline waker ((refines.held ref there).resolve_right ?_)
      rintro ⟨closed, -⟩
      rw [isOpen] at closed
      cases closed
  · have map : timerMap { state with
        queue := state.queue.inserted library taken index deadline waker
        waiter := state.waiter.map fun wait => { wait with unparked := wait.unparked || unparked }
        issued := ⟨index, (state.queue.slots index).freed⟩ :: state.issued
        history := .inserted ⟨index, (state.queue.slots index).freed⟩
          ⟨deadline, state.queue.nextSeq, waker⟩ :: state.history } = { state.timerMap with
            live := update state.timerMap.live ⟨index, (state.queue.slots index).freed⟩
              (some ⟨deadline, state.timerMap.inserted, waker⟩)
            inserted := state.timerMap.inserted + 1
            issued := ⟨index, (state.queue.slots index).freed⟩ :: state.timerMap.issued } := by
      simp only [timerMap, TimerMap.mk.injEq, and_true, true_and]
      refine ⟨?_, rfl, takes.closed⟩
      funext other
      rw [sound.insert_live library takes deadline waker isOpen, update_apply]
    rw [map]
    refine .cons refines.run (.insert _ deadline waker isOpen ?_)
    -- whoever held this id would hold one of a free slot
    intro issued
    rcases refines.held _ issued with held | ⟨closed, -⟩
    · exact Nat.lt_irrefl _ (takes.unnamed _ held rfl)
    · rw [isOpen] at closed
      cases closed

theorem Refines.cancel (issued : ref ∈ state.issued)
    (sparing : (state.queue.slots ref.index).freed < ref.freed + 2 ^ 32) :
    { state with
      queue := state.queue.cancel library ref.id
      history := .cancelled ref :: state.history }.Refines := by
  have held := refines.held ref issued
  rcases refines.sound.cancel library (held.imp_right And.right) sparing with
    ⟨sound, live, heldAfter, same⟩
  refine ⟨sound, ?_, ?_⟩
  · intro other inside
    rcases refines.held other inside with still | ⟨closed, outside⟩
    · exact .inl (heldAfter other still)
    · exact .inr ⟨same.closed ▸ closed, same.slotCount ▸ outside⟩
  · have map : timerMap { state with
        queue := state.queue.cancel library ref.id
        history := .cancelled ref :: state.history } = { state.timerMap with
          live := update state.timerMap.live ref none } := by
      simp only [timerMap, same.nextSeq, same.closed, TimerMap.mk.injEq, and_true]
      funext other
      rw [live, update_apply]
    rw [map]
    exact .cons refines.run (.cancel ref issued)

theorem Refines.fireSection (locking : state.firing party = .locking) :
    (state.fireSection library party).Refines := by
  have sound := refines.sound
  generalize endWait : decide (party = .waiter) = ends
  have fires := sound.fireSection library ends state.alive state.clock
  generalize resultIs : state.queue.fireSection library state.alive state.clock ends = result
    at fires
  rcases fires.batch with ⟨expired, batch⟩
  have next : state.fireSection library party = { state with
      queue := result.2.2
      waiter := if party = .waiter then none else state.waiter
      firing := update state.firing party (.waking result.1 result.2.1)
      history := .fired party result.1 result.2.1 :: state.history } := by
    simp only [State.fireSection, endWait, resultIs]
  rw [next]
  refine ⟨fires.sound, ?_, ?_⟩
  · intro ref issued
    rcases refines.held ref issued with held | ⟨closed, outside⟩
    · exact .inl (fires.held ref held)
    · exact .inr ⟨fires.closed ▸ closed, fires.slotCount ▸ outside⟩
  · have map : timerMap { state with
        queue := result.2.2
        waiter := if party = .waiter then none else state.waiter
        firing := update state.firing party (.waking result.1 result.2.1)
        history := .fired party result.1 result.2.1 :: state.history } = { state.timerMap with
          live := result.2.2.live
          owed := update state.timerMap.owed party result.1 } := by
      simp only [timerMap, fires.nextSeq, fires.closed, owed_update]
      rfl
    rw [map]
    refine .cons refines.run (.fire party _ expired _ _ ?_ batch)
    simp only [timerMap, locking, Firing.owed]

theorem Refines.close (idle : state.firing party = .idle) : (state.close party).Refines := by
  rcases refines.sound.close state.alive with
    ⟨sound, empty, once, all, held, heap, closed, nextSeq, slotCount⟩
  refine ⟨sound, ?_, ?_⟩
  · intro ref issued
    rcases refines.held ref issued with before | ⟨-, outside⟩
    · left
      have after := held ref before
      rw [← heap] at after
      exact after
    · exact .inr ⟨closed, Nat.le_trans (Nat.le_of_eq slotCount) outside⟩
  · have map : (state.close party).timerMap = { state.timerMap with
        live := fun _ => none
        closed := true
        owed := update state.timerMap.owed party
          (state.queue.closeAndWakeAll state.alive).1 } := by
      simp only [timerMap, State.close, nextSeq, closed, owed_update, TimerMap.mk.injEq, true_and]
      exact ⟨funext empty, rfl⟩
    rw [map]
    refine .cons refines.run (.close party _ ?_ once all)
    simp only [timerMap, idle, Firing.owed]

omit refines in
theorem refines_initial : ({} : State Waker).Refines where
  sound := ⟨isHeap_nil, ⟨.nil, .nil, nofun, .nil, nofun, nofun, nofun, fun _ _ => rfl⟩, rfl,
    fun _ => rfl⟩
  held := nofun
  run := .nil

theorem Refines.silent {next : State Waker}
    (queue : ∃ waiting, next.queue = { state.queue with waiting })
    (clock : next.clock = state.clock)
    (alive : next.alive = state.alive) (issued : next.issued = state.issued)
    (history : next.history = state.history)
    (owed : ∀ party, (next.firing party).owed = (state.firing party).owed) : next.Refines := by
  rcases queue with ⟨waiting, same⟩
  have sound := refines.sound
  have map : next.timerMap = state.timerMap := by
    simp only [timerMap, same, clock, alive, issued, owed]
    rfl
  refine ⟨?_, ?_, ?_⟩
  · rw [same]
    exact ⟨sound.heap, sound.allotted.of_same rfl rfl rfl rfl, sound.cancelled, sound.closed⟩
  · rw [issued, same]
    exact refines.held
  · rw [history, map]
    exact refines.run

theorem Refines.step (sparing : Sparing state action)
    (stepped : step library state action = some next) : next.Refines := by
  cases action with
  | insert deadline waker =>
    cases stepped
    cases closed : state.queue.closed with
    | true => exact refines.reject library closed deadline waker
    | false => exact refines.insert library closed deadline waker
  | cancel ref =>
    rcases of_guard stepped with ⟨issued, rfl⟩
    exact refines.cancel library issued sparing.cancel
  | tick now =>
    rcases of_guard stepped with ⟨later, rfl⟩
    exact ⟨refines.sound, refines.held, .cons refines.run (.tick now later)⟩
  | drop waker =>
    cases stepped
    exact ⟨refines.sound, refines.held, .cons refines.run (.drop waker)⟩
  | beginWait maxWait =>
    rcases of_guard stepped with ⟨-, rfl⟩
    refine refines.silent ?_ rfl rfl rfl rfl fun _ => rfl
    simp only [State.beginWait, Queue.beginWait]
    split
    · exact ⟨_, rfl⟩
    · exact ⟨_, rfl⟩
  | endWait =>
    rcases of_guard stepped with ⟨-, rfl⟩
    exact refines.silent ⟨false, rfl⟩ rfl rfl rfl rfl fun _ => rfl
  | fire party =>
    rcases of_guard stepped with ⟨idle, rfl⟩
    exact refines.silent ⟨_, rfl⟩ rfl rfl rfl rfl (owed_update_of_same (by rw [idle]; rfl))
  | fireSection party =>
    rcases of_guard stepped with ⟨locking, rfl⟩
    exact refines.fireSection library locking
  | close party =>
    rcases of_guard stepped with ⟨idle, rfl⟩
    exact refines.close idle
  | wake party =>
    simp only [Timers.step] at stepped
    split at stepped <;> cases stepped
    rename_i timer rest more waking
    refine ⟨refines.sound, refines.held, ?_⟩
    have map : timerMap { state with
        firing := update state.firing party (.waking rest more)
        history := .woke party timer :: state.history } = { state.timerMap with
          owed := update state.timerMap.owed party rest } := by
      simp only [timerMap, owed_update]
      rfl
    rw [map]
    refine .cons refines.run (.wake party timer rest ?_)
    simp only [timerMap, waking, Firing.owed]
  | loop party =>
    simp only [Timers.step] at stepped
    split at stepped <;> cases stepped
    rename_i more waking
    refine refines.silent ⟨_, rfl⟩ rfl rfl rfl rfl (owed_update_of_same ?_)
    rw [waking]
    cases more <;> rfl

end

theorem refines_of_reaches (reached : (machine library).Reaches Sparing state) : state.Refines :=
  reached.invariant Refines (fun _ _ _ refines sparing stepped =>
    refines.step library sparing stepped) refines_initial

/-! ## Returning -/

/-- A party wakes the timers of its last critical section. -/
def Sectioned (state : State Waker) : Prop :=
  ∀ party rest more, state.firing party = .waking rest more →
    state.history.findSome? (Event.sectionOf party) = some more

omit [DecidableEq Waker] in
theorem Sectioned.record {next : State Waker} (sectioned : state.Sectioned)
    (history : next.history = event :: state.history)
    (waking : ∀ party rest more, next.firing party = .waking rest more →
      event.sectionOf party = some more ∨
        event.sectionOf party = none ∧ ∃ before, state.firing party = .waking before more) :
    next.Sectioned := by
  intro party rest more now
  rw [history, List.findSome?_cons]
  rcases waking party rest more now with last | ⟨other, before, was⟩
  · rw [last]
  · rw [other]
    exact sectioned party before more was

theorem Sectioned.step (sectioned : state.Sectioned)
    (stepped : step library state action = some next) : next.Sectioned := by
  cases action with
  | insert deadline waker =>
    cases stepped
    refine sectioned.record rfl fun party rest more waking => .inr ⟨?_, rest, waking⟩
    split <;> rfl
  | cancel | tick =>
    rcases of_guard stepped with ⟨-, rfl⟩
    exact sectioned.record rfl fun party rest more waking => .inr ⟨rfl, rest, waking⟩
  | drop waker =>
    cases stepped
    exact sectioned.record rfl fun party rest more waking => .inr ⟨rfl, rest, waking⟩
  | beginWait | endWait =>
    rcases of_guard stepped with ⟨-, rfl⟩
    exact sectioned
  | fire party =>
    rcases of_guard stepped with ⟨-, rfl⟩
    intro other rest more waking
    simp only [update_apply] at waking
    split at waking
    · cases waking
    · exact sectioned other rest more waking
  | fireSection party | close party =>
    rcases of_guard stepped with ⟨-, rfl⟩
    refine sectioned.record rfl fun other rest more waking => ?_
    simp only [State.fireSection, State.close, update_apply] at waking
    split at waking
    · rename_i same
      cases waking
      exact .inl (if_pos same.symm)
    · rename_i apart
      exact .inr ⟨if_neg (Ne.symm apart), rest, waking⟩
  | wake party =>
    simp only [Timers.step] at stepped
    split at stepped <;> cases stepped
    rename_i timer left follows was
    refine sectioned.record rfl fun other rest more waking => .inr ⟨rfl, ?_⟩
    simp only [update_apply] at waking
    split at waking
    · rename_i same
      cases waking
      exact ⟨_, same ▸ was⟩
    · exact ⟨rest, waking⟩
  | loop party =>
    simp only [Timers.step] at stepped
    split at stepped <;> cases stepped
    intro other rest more waking
    simp only [update_apply] at waking
    split at waking
    · split at waking <;> cases waking
    · exact sectioned other rest more waking

theorem sectioned_of_reaches (reached : (machine library).Reaches Sparing state) :
    state.Sectioned := by
  refine reached.invariant Sectioned ?_ ?_
  · intro state action next sectioned _ stepped
    exact sectioned.step library stepped
  · intro party rest more waking
    cases waking

/-- The queue's history is one of a set of timers, with what follows for each timer. -/
structure KeepsTimers (state : State Waker) : Prop where
  run : TimerMap.Run state.history state.timerMap
  /-- Cancelling a stale id does nothing. -/
  stale : ∀ ref ∈ state.issued, (state.queue.slots ref.index).freed < ref.freed + 2 ^ 32 →
    state.timerMap.live ref = none → state.queue.cancel library ref.id = state.queue
  /-- No timer is taken twice, and whoever takes one wakes it once. -/
  taken_once : ((taken state.history).map (·.seq)).Nodup
  woken_once : (woken state.history).Nodup
  woken_taken : ∀ timer ∈ woken state.history, timer ∈ taken state.history
  taken_woken : ∀ timer ∈ taken state.history,
    timer ∈ woken state.history ∨ ∃ party, timer ∈ (state.firing party).owed
  owed : ∀ party, ∀ timer ∈ (state.firing party).owed, timer ∉ woken state.history
  cancelled : ∀ later earlier ref timer, state.history = later ++ .cancelled ref :: earlier →
    .inserted ref timer ∈ earlier → timer ∉ taken earlier →
      timer ∉ taken state.history ∧ timer ∉ woken state.history
  /-- A call that returns leaves no timer that was due when its last critical section read the
  clock, unless it was inserted since. -/
  returns : ∀ party next, step library state (.loop party) = some next →
    next.firing party = .idle → ∃ later event earlier map,
      next.history = later ++ event :: earlier ∧ event.sectionOf party = some false ∧
      (∀ event ∈ later, event.sectionOf party = none) ∧ TimerMap.Run earlier map ∧
      ∀ ref timer, next.timerMap.live ref = some timer →
        .inserted ref timer ∈ later ∨ map.clock < timer.deadline
  closed : ∀ later earlier party wakes, state.history = later ++ .closed party wakes :: earlier →
    state.queue.closed ∧ (∀ ref, state.timerMap.live ref = none) ∧
      ∀ ref timer, .inserted ref timer ∉ later

/-- In any interleaving of inserts, cancels, critical sections of `fire_expired` and
`close_and_wake_all`, a queue behaves as a set of timers. -/
theorem queue_keeps_timers (reached : (machine library).Reaches Sparing state) :
    state.KeepsTimers library := by
  have refines := refines_of_reaches library reached
  have run := refines.run
  have ledger := run.ledger
  refine ⟨run, ?_, ledger.taken_once, ledger.woken_once, fun _ => ledger.woken_taken,
    fun _ => ledger.kept, fun _ _ owed => (ledger.owed_taken owed).2, ?_, ?_, ?_⟩
  · intro ref issued sparing dead
    rcases Queue.cancel_cases library refines.sound
      ((refines.held ref issued).imp_right And.right) sparing with
      ⟨same, -⟩ | ⟨entry, inside, live, rfl, -⟩
    · exact same
    · have names : state.queue.Names ⟨entry.slot, (state.queue.slots entry.slot).freed⟩ entry :=
        ⟨rfl, live, rfl⟩
      have named := (Queue.live_eq_some refines.sound.allotted).mpr ⟨entry, inside, names, rfl⟩
      cases dead.symm.trans named
  · intro later earlier ref timer split inserted untaken
    rw [split] at run
    have never := (run.cancelled inserted untaken).2.2
    rw [← split] at never
    exact ⟨never, fun done => never (ledger.woken_taken done)⟩
  · intro party next stepped idle
    simp only [Timers.step] at stepped
    split at stepped <;> cases stepped
    rename_i more waking
    cases more with
    | true => simp at idle
    | false =>
      have last := sectioned_of_reaches library reached party [] false waking
      rcases List.findSome?_eq_some_iff.mp last with ⟨later, event, earlier, split, ends, others⟩
      rw [split] at run
      rcases run.none_due ends with ⟨map, before, due⟩
      exact ⟨later, event, earlier, map, split, ends, others, before, due⟩
  · intro later earlier party wakes split
    rw [split] at run
    exact run.closed

/-- One of two timers is cancelled, the slot of the other is used twice again, and its first
id is cancelled then, before the queue is closed. -/
theorem queue_keeps_timers_closed :
    ∃ state : State Nat, (machine HeapLibrary.sorted).Reaches Sparing state ∧
      woken state.history = [⟨9, 3, some 3⟩, ⟨4, 2, some 2⟩, ⟨5, 0, some 0⟩] ∧
      state.issued = [⟨0, 0⟩, ⟨0, 2⟩, ⟨0, 1⟩, ⟨1, 0⟩, ⟨0, 0⟩] ∧
      state.KeepsTimers HeapLibrary.sorted := by
  refine exists_of_exec
    [.insert 5 (some 0), .insert 3 (some 1), .cancel ⟨1, 0⟩, .tick 5, .fire .waiter,
      .fireSection .waiter, .insert 4 (some 2), .fire (.caller 0), .fireSection (.caller 0),
      .wake .waiter, .wake (.caller 0), .loop (.caller 0), .insert 9 (some 3),
      .cancel ⟨0, 0⟩, .close (.caller 0), .wake (.caller 0), .insert 7 (some 4)]
    (by decide +kernel) fun reached => ⟨?_, ?_, queue_keeps_timers _ reached⟩
  all_goals decide +kernel

/-- Each slot that was ever made is free once or in use by one entry of the heap, and the
cancelled entries are counted exactly. -/
theorem slots_partitioned (reached : (machine library).Reaches Sparing state) :
    (state.queue.freeSlots ++ state.queue.heap.map (·.slot)).Perm
      (List.range state.queue.slotCount) ∧
    state.queue.cancelled =
      state.queue.heap.countP fun entry => (state.queue.slots entry.slot).cancelled := by
  have sound := (refines_of_reaches library reached).sound
  have allotted := sound.allotted
  refine ⟨(List.perm_ext_iff_of_nodup ?_ List.nodup_range).mpr ?_, sound.cancelled⟩
  · refine List.nodup_append.mpr ⟨allotted.free_nodup, allotted.slots_nodup, ?_⟩
    rintro index free _ used rfl
    rcases List.mem_map.mp used with ⟨entry, inside, rfl⟩
    exact (allotted.in_use entry inside).2 free
  · intro index
    rw [List.mem_append, List.mem_map, List.mem_range]
    constructor
    · rintro (free | ⟨entry, inside, rfl⟩)
      · exact (allotted.free index free).1
      · exact (allotted.in_use entry inside).1
    · exact allotted.covered index

/-- A timer takes over the slot of one that has fired. -/
theorem slots_partitioned_reused :
    ∃ state : State Nat, (machine HeapLibrary.sorted).Reaches Sparing state ∧
      state.issued = [⟨0, 1⟩, ⟨1, 0⟩, ⟨0, 0⟩] ∧
      (state.queue.freeSlots ++ state.queue.heap.map (·.slot)).Perm
        (List.range state.queue.slotCount) := by
  exact exists_of_exec
    [.insert 5 none, .insert 9 none, .tick 5, .fire .waiter, .fireSection .waiter,
      .insert 7 none]
    (by decide +kernel) fun reached => ⟨by decide +kernel, (slots_partitioned _ reached).1⟩

end State

end CoroRuntime.Timers
