import CoroRuntime.Timers.Queue

/-! # A set of timers

What a timer queue is for, without its heap and its slots: a map from the ids of the live
timers to their deadlines and wakers. The queue's callers see no more than this.
-/

namespace CoroRuntime.Timers

open Foundation
open Function (update update_self update_of_ne update_apply)

variable {Waker : Type u}

def Timer.before (first second : Timer Waker) : Prop :=
  first.deadline < second.deadline ∨
    first.deadline = second.deadline ∧ first.seq < second.seq

/-- The timers that one critical section takes from the map: the first ones that are due, up
to `room` that have a waker to be woken. -/
structure Batch (alive : Waker → Bool) (now : Int) (room : Nat)
    (before after : Ref → Option (Timer Waker)) (expired : List (Ref × Timer Waker))
    (woken : List (Timer Waker)) (more : Bool) : Prop where
  live : ∀ pair ∈ expired, before pair.1 = some pair.2
  due : ∀ pair ∈ expired, pair.2.deadline ≤ now
  ordered : expired.Pairwise fun first second => first.2.before second.2
  rest : ∀ ref, after ref = if ref ∈ expired.map (·.1) then none else before ref
  first : ∀ ref timer, after ref = some timer → ∀ pair ∈ expired, pair.2.before timer
  complete : more = false → ∀ ref timer, after ref = some timer → now < timer.deadline
  wakes : woken = (expired.map (·.2)).filter (Queue.locks alive)
  small : woken.length ≤ room
  full : more → woken.length = room

namespace Batch

variable {alive : Waker → Bool} {now : Int} {room : Nat}
  {before middle after : Ref → Option (Timer Waker)} {expired : List (Ref × Timer Waker)}
  {woken : List (Timer Waker)} {more : Bool}

theorem nil (map : Ref → Option (Timer Waker)) (more : Bool)
    (complete : more = false → ∀ ref timer, map ref = some timer → now < timer.deadline)
    (full : more → room = 0) : Batch alive now room map map [] [] more where
  live := nofun
  due := nofun
  ordered := .nil
  rest := fun ref => by simp
  first := nofun
  complete := complete
  wakes := rfl
  small := Nat.zero_le _
  full := fun moreIs => (full moreIs).symm

theorem cons (ref : Ref) (timer : Timer Waker)
    (batch : Batch alive now (room - (Queue.locks alive timer).toNat) middle after expired
      woken more) (space : 0 < room)
    (there : before ref = some timer) (due : timer.deadline ≤ now)
    (removed : ∀ other, middle other = if other = ref then none else before other)
    (first : ∀ other later, middle other = some later → timer.before later) :
    Batch alive now room before after ((ref, timer) :: expired)
      (if Queue.locks alive timer then timer :: woken else woken) more where
  live := by
    intro pair taken
    rcases List.mem_cons.mp taken with rfl | later
    · exact there
    · have inside := batch.live pair later
      rw [removed] at inside
      split at inside
      · cases inside
      · exact inside
  due := by
    intro pair taken
    rcases List.mem_cons.mp taken with rfl | later
    · exact due
    · exact batch.due pair later
  ordered := List.pairwise_cons.mpr
    ⟨fun pair later => first pair.1 pair.2 (batch.live pair later), batch.ordered⟩
  rest := by
    intro other
    rw [batch.rest, removed]
    simp only [List.map_cons, List.mem_cons]
    split <;> split <;> simp_all
  first := by
    intro other later left pair taken
    rcases List.mem_cons.mp taken with rfl | tail
    · apply first other later
      rw [batch.rest] at left
      split at left
      · cases left
      · exact left
    · exact batch.first other later left pair tail
  complete := batch.complete
  wakes := by
    rw [List.map_cons, List.filter_cons, ← batch.wakes]
  small := by
    have small := batch.small
    cases locks : Queue.locks alive timer
    · simpa [locks] using small
    · simp only [locks, Bool.toNat_true, if_true, List.length_cons] at small ⊢
      omega
  full := by
    intro moreIs
    have full := batch.full moreIs
    cases locks : Queue.locks alive timer
    · simpa [locks] using full
    · simp only [locks, Bool.toNat_true, if_true, List.length_cons] at full ⊢
      omega

theorem wakes_live (batch : Batch alive now room before after expired woken more)
    (inside : timer ∈ woken) : ∃ ref, before ref = some timer ∧ after ref = none := by
  rw [batch.wakes] at inside
  rcases List.mem_map.mp (List.mem_filter.mp inside).1 with ⟨pair, taken, rfl⟩
  refine ⟨pair.1, batch.live pair taken, ?_⟩
  rw [batch.rest, if_pos (List.mem_map_of_mem taken)]

theorem fewer (batch : Batch alive now room before after expired woken more)
    (left : after ref = some timer) : before ref = some timer := by
  rw [batch.rest] at left
  split at left
  · cases left
  · exact left

theorem wakes_once (batch : Batch alive now room before after expired woken more)
    (distinct : ∀ {ref other : Ref} {timer later : Timer Waker}, before ref = some timer →
      before other = some later → timer.seq = later.seq → timer = later) :
    (woken.map (·.seq)).Nodup := by
  have apart : (expired.map (·.2)).Pairwise fun first second => first.seq ≠ second.seq := by
    rw [List.pairwise_map]
    refine batch.ordered.imp_of_mem ?_
    intro first second firstIn secondIn ordered same
    have equal := distinct (batch.live first firstIn) (batch.live second secondIn) same
    rw [Timer.before, equal] at ordered
    omega
  rw [batch.wakes, List.Nodup, List.pairwise_map]
  exact apart.filter _

end Batch

def Event.takes : Event Waker → List (Timer Waker)
  | .fired _ woken _ | .closed _ woken => woken
  | _ => []

def Event.wakes : Event Waker → Option (Timer Waker)
  | .woke _ timer => some timer
  | _ => none

/-- Whether another critical section follows this one, in the party's call -/
def Event.sectionOf (party : Party) : Event Waker → Option Bool
  | .fired other _ more => if other = party then some more else none
  | .closed other _ => if other = party then some false else none
  | _ => none

def taken (history : List (Event Waker)) : List (Timer Waker) := history.flatMap Event.takes

def woken (history : List (Event Waker)) : List (Timer Waker) := history.filterMap Event.wakes

structure TimerMap (Waker : Type u) where
  live : Ref → Option (Timer Waker) := fun _ => none
  alive : Waker → Bool := fun _ => true
  clock : Int := 0
  inserted : Nat := 0
  closed : Bool := false
  issued : List Ref := []
  /-- the timers that a party has taken and not yet woken -/
  owed : Party → List (Timer Waker) := fun _ => []

namespace TimerMap

variable [DecidableEq Waker]

inductive Step (map : TimerMap Waker) : Event Waker → TimerMap Waker → Prop
  | insert (ref : Ref) (deadline : Int) (waker : Option Waker) (isOpen : map.closed = false)
      (fresh : ref ∉ map.issued) :
      Step map (.inserted ref ⟨deadline, map.inserted, waker⟩) { map with
        live := update map.live ref (some ⟨deadline, map.inserted, waker⟩)
        inserted := map.inserted + 1
        issued := ref :: map.issued }
  | reject (isClosed : map.closed) :
      Step map .rejected { map with issued := ⟨0, 0⟩ :: map.issued }
  | cancel (ref : Ref) (held : ref ∈ map.issued) :
      Step map (.cancelled ref) { map with live := update map.live ref none }
  | tick (now : Int) (later : map.clock ≤ now) :
      Step map (.ticked now) { map with clock := now }
  | drop (waker : Waker) :
      Step map (.dropped waker) { map with alive := update map.alive waker false }
  | fire (party : Party) (after : Ref → Option (Timer Waker))
      (expired : List (Ref × Timer Waker)) (woken : List (Timer Waker)) (more : Bool)
      (free : map.owed party = [])
      (batch : Batch map.alive map.clock batchSize map.live after expired woken more) :
      Step map (.fired party woken more) { map with
        live := after
        owed := update map.owed party woken }
  | close (party : Party) (woken : List (Timer Waker)) (free : map.owed party = [])
      (once : woken.Nodup)
      (all : ∀ timer, timer ∈ woken ↔
        (∃ ref, map.live ref = some timer) ∧ Queue.locks map.alive timer) :
      Step map (.closed party woken) { map with
        live := fun _ => none
        closed := true
        owed := update map.owed party woken }
  | wake (party : Party) (timer : Timer Waker) (rest : List (Timer Waker))
      (owes : map.owed party = timer :: rest) :
      Step map (.woke party timer) { map with owed := update map.owed party rest }

/-- The histories of a set of timers, the latest event first, and where they lead. -/
inductive Run : List (Event Waker) → TimerMap Waker → Prop
  | nil : Run [] {}
  | cons {history map event next} (before : Run history map) (step : Step map event next) :
      Run (event :: history) next

/-! ## Every timer is woken once -/

structure Ledger (history : List (Event Waker)) (map : TimerMap Waker) : Prop where
  live_seq : ∀ {ref timer}, map.live ref = some timer → timer.seq ∉ (taken history).map (·.seq)
  origin : ∀ {ref timer}, map.live ref = some timer → .inserted ref timer ∈ history
  inserted_seq : ∀ {ref timer}, .inserted ref timer ∈ history → timer.seq < map.inserted
  inserted_inj : ∀ {ref other timer later}, .inserted ref timer ∈ history →
    .inserted other later ∈ history → timer.seq = later.seq → ref = other ∧ timer = later
  taken_seq : ∀ {timer}, timer ∈ taken history → timer.seq < map.inserted
  taken_once : ((taken history).map (·.seq)).Nodup
  woken_taken : ∀ {timer}, timer ∈ woken history → timer ∈ taken history
  woken_once : (woken history).Nodup
  owed_taken : ∀ {party timer}, timer ∈ map.owed party →
    timer ∈ taken history ∧ timer ∉ woken history
  owed_once : ∀ party, (map.owed party).Nodup
  owed_party : ∀ {party other timer}, timer ∈ map.owed party → timer ∈ map.owed other →
    party = other
  kept : ∀ {timer}, timer ∈ taken history → timer ∈ woken history ∨
    ∃ party, timer ∈ map.owed party

variable {history : List (Event Waker)} {map next : TimerMap Waker} {event : Event Waker}

attribute [grind →] Ledger.live_seq Ledger.origin Ledger.inserted_seq Ledger.inserted_inj
  Ledger.taken_seq Ledger.woken_taken
  Ledger.owed_taken Ledger.owed_party Ledger.kept

section Ledger

omit [DecidableEq Waker]

theorem taken_cons : taken (event :: history) = event.takes ++ taken history := rfl

theorem woken_cons : woken (event :: history) = event.wakes.toList ++ woken history := by
  cases wakes : event.wakes <;> simp [woken, wakes]

theorem inserted_mem_cons (inserts : ∀ ref timer, event ≠ .inserted ref timer) (ref : Ref)
    (timer : Timer Waker) :
    .inserted ref timer ∈ event :: history ↔ .inserted ref timer ∈ history := by
  rw [List.mem_cons, or_iff_right (Ne.symm (inserts ref timer))]

theorem Ledger.nil : Ledger [] ({} : TimerMap Waker) := by
  constructor <;> simp [taken, woken]

variable (ledger : map.Ledger history)

include ledger

theorem Ledger.live_inj (here : map.live ref = some timer) (there : map.live other = some later)
    (same : timer.seq = later.seq) : timer = later :=
  (ledger.inserted_inj (ledger.origin here) (ledger.origin there) same).2

theorem Ledger.keep (takes : event.takes = [])
    (wakes : event.wakes = none) (inserts : ∀ ref timer, event ≠ .inserted ref timer)
    (owed : next.owed = map.owed) (inserted : next.inserted = map.inserted)
    (fewer : ∀ ref timer, next.live ref = some timer → map.live ref = some timer) :
    next.Ledger (event :: history) := by
  have takenIs : taken (event :: history) = taken history := by
    rw [taken_cons, takes, List.nil_append]
  have wokenIs : woken (event :: history) = woken history := by
    rw [woken_cons, wakes]
    rfl
  have once := ledger.taken_once
  have wokenOnce := ledger.woken_once
  constructor
  all_goals try simp only [takenIs, wokenIs, owed, inserted, inserted_mem_cons inserts]
  case owed_once => exact ledger.owed_once
  all_goals grind

theorem Ledger.insert (seq : timer.seq = map.inserted) (owed : next.owed = map.owed)
    (inserted : next.inserted = map.inserted + 1)
    (live : next.live = update map.live ref (some timer)) :
    next.Ledger (.inserted ref timer :: history) := by
  have takenIs : taken (.inserted ref timer :: history) = taken history := rfl
  have wokenIs : woken (.inserted ref timer :: history) = woken history := rfl
  have once := ledger.taken_once
  have wokenOnce := ledger.woken_once
  constructor
  all_goals try simp only [takenIs, wokenIs, owed, inserted, live]
  case owed_once => exact ledger.owed_once
  all_goals grind [update_apply]

theorem Ledger.take (free : map.owed party = []) (takes : event.takes = wakes)
    (silent : event.wakes = none) (inserts : ∀ ref timer, event ≠ .inserted ref timer)
    (inserted : next.inserted = map.inserted) (owed : next.owed = update map.owed party wakes)
    (origin : ∀ timer ∈ wakes, ∃ ref, map.live ref = some timer ∧ next.live ref = none)
    (fewer : ∀ ref timer, next.live ref = some timer → map.live ref = some timer)
    (once : (wakes.map (·.seq)).Nodup) : next.Ledger (event :: history) := by
  have takenIs : taken (event :: history) = wakes ++ taken history := by
    rw [taken_cons, takes]
  have wokenIs : woken (event :: history) = woken history := by
    rw [woken_cons, silent]
    rfl
  have takenOnce := ledger.taken_once
  have wokenOnce := ledger.woken_once
  constructor
  all_goals try simp only [takenIs, wokenIs, inserted, owed, inserted_mem_cons inserts]
  case taken_once =>
    rw [List.map_append, List.nodup_append']
    refine ⟨once, takenOnce, ?_⟩
    intro seq
    simp only [List.mem_map]
    grind
  case owed_once =>
    intro other
    have before := ledger.owed_once other
    have here := List.Nodup.of_map _ once
    grind [update_apply]
  case kept =>
    intro timer inside
    rcases List.mem_append.mp inside with new | old
    · exact .inr ⟨party, by rwa [update_self]⟩
    · refine (ledger.kept old).imp_right ?_
      rintro ⟨other, owes⟩
      refine ⟨other, ?_⟩
      rwa [update_of_ne]
      rintro rfl
      rw [free] at owes
      cases owes
  all_goals grind [update_apply]

theorem Ledger.wake (owes : map.owed party = timer :: rest) (takes : event.takes = [])
    (wakes : event.wakes = some timer) (inserts : ∀ ref timer, event ≠ .inserted ref timer)
    (inserted : next.inserted = map.inserted) (live : next.live = map.live)
    (owed : next.owed = update map.owed party rest) : next.Ledger (event :: history) := by
  have takenIs : taken (event :: history) = taken history := by
    rw [taken_cons, takes, List.nil_append]
  have wokenIs : woken (event :: history) = timer :: woken history := by
    rw [woken_cons, wakes]
    rfl
  have takenOnce := ledger.taken_once
  have wokenOnce := ledger.woken_once
  have owedOnce := ledger.owed_once
  have mine : ∀ other, other ∈ map.owed party ↔ other = timer ∨ other ∈ rest := by
    intro other
    rw [owes, List.mem_cons]
  have known := ledger.owed_taken ((mine timer).mpr (.inl rfl))
  have once := ledger.owed_once party
  rw [owes, List.nodup_cons] at once
  constructor
  all_goals try simp only [takenIs, wokenIs, inserted, live, owed, inserted_mem_cons inserts]
  case woken_once => exact List.nodup_cons.mpr ⟨known.2, wokenOnce⟩
  case taken_once => exact takenOnce
  case kept =>
    intro other old
    rcases ledger.kept old with done | ⟨holder, owing⟩
    · exact .inl (List.mem_cons_of_mem _ done)
    · by_cases here : holder = party
      · subst here
        rcases (mine other).mp owing with rfl | later
        · exact .inl List.mem_cons_self
        · exact .inr ⟨holder, by rwa [update_self]⟩
      · exact .inr ⟨holder, by rwa [update_of_ne here]⟩
  all_goals clear takenOnce wokenOnce
  all_goals grind [update_apply]

end Ledger

theorem Ledger.step (ledger : map.Ledger history) (step : map.Step event next) :
    next.Ledger (event :: history) := by
  cases step with
  | insert ref deadline waker isOpen fresh => exact ledger.insert rfl rfl rfl rfl
  | reject | tick | drop => exact ledger.keep rfl rfl nofun rfl rfl fun _ _ live => live
  | cancel ref held =>
    refine ledger.keep rfl rfl nofun rfl rfl ?_
    intro other timer live
    simp only [update_apply] at live
    split at live
    · cases live
    · exact live
  | fire party after expired wakes more free batch =>
    exact ledger.take free rfl rfl nofun rfl rfl (fun _ => batch.wakes_live)
      (fun _ _ => batch.fewer) (batch.wakes_once ledger.live_inj)
  | close party wakes free once all =>
    refine ledger.take free rfl rfl nofun rfl rfl ?_ nofun ?_
    · intro timer inside
      rcases ((all timer).mp inside).1 with ⟨ref, live⟩
      exact ⟨ref, live, rfl⟩
    · refine once.map_on ?_
      intro timer timerIn later laterIn same
      rcases ((all timer).mp timerIn).1 with ⟨ref, here⟩
      rcases ((all later).mp laterIn).1 with ⟨other, there⟩
      exact ledger.live_inj here there same
  | wake party timer rest owes => exact ledger.wake owes rfl rfl nofun rfl rfl rfl

theorem Run.ledger (run : Run history map) : map.Ledger history := by
  induction run with
  | nil => exact .nil
  | cons _ step induction => exact induction.step step

/-! ## Cancelled timers -/

theorem Step.live_or_inserted (step : map.Step event next) (live : next.live ref = some timer) :
    map.live ref = some timer ∨ event = .inserted ref timer := by
  cases step with
  | insert other deadline waker isOpen fresh =>
    simp only [update_apply] at live
    split at live
    · rename_i same
      cases live
      exact .inr (by rw [same])
    · exact .inl live
  | reject | tick | drop | wake => exact .inl live
  | cancel other held =>
    simp only [update_apply] at live
    split at live
    · cases live
    · exact .inl live
  | fire party after expired wakes more free batch => exact .inl (batch.fewer live)
  | close => cases live

theorem Step.gone (step : map.Step event next) (known : seq < map.inserted)
    (gone : ∀ ref timer, map.live ref = some timer → timer.seq ≠ seq) :
    seq < next.inserted ∧ (∀ ref timer, next.live ref = some timer → timer.seq ≠ seq) ∧
      seq ∉ event.takes.map (·.seq) := by
  have still : ∀ ref timer, next.live ref = some timer → timer.seq ≠ seq := by
    intro ref timer live
    rcases step.live_or_inserted live with before | rfl
    · exact gone ref timer before
    · cases step
      exact Nat.ne_of_gt known
  cases step with
  | insert => exact ⟨Nat.lt_succ_of_lt known, still, by simp [Event.takes]⟩
  | reject | tick | drop | wake | cancel => exact ⟨known, still, by simp [Event.takes]⟩
  | fire party after expired wakes more free batch =>
    refine ⟨known, still, ?_⟩
    rintro taken
    rcases List.mem_map.mp taken with ⟨timer, inside, rfl⟩
    rcases batch.wakes_live inside with ⟨ref, live, -⟩
    exact gone ref timer live rfl
  | close party wakes free once all =>
    refine ⟨known, still, ?_⟩
    rintro taken
    rcases List.mem_map.mp taken with ⟨timer, inside, rfl⟩
    rcases ((all timer).mp inside).1 with ⟨ref, live⟩
    exact gone ref timer live rfl

/-- A timer that is cancelled before it is taken is never taken. -/
theorem Run.cancelled (run : Run (later ++ .cancelled ref :: earlier) map)
    (inserted : .inserted ref timer ∈ earlier) (untaken : timer ∉ taken earlier) :
    timer.seq < map.inserted ∧ (∀ other still, map.live other = some still →
      still.seq ≠ timer.seq) ∧ timer ∉ taken (later ++ .cancelled ref :: earlier) := by
  induction later generalizing map with
  | nil =>
    rcases run with _ | ⟨before, step⟩
    have ledger := before.ledger
    cases step with
    | cancel ref held =>
      refine ⟨ledger.inserted_seq inserted, ?_, untaken⟩
      intro other still live same
      simp only [update_apply] at live
      split at live
      · cases live
      · rename_i different
        exact different (ledger.inserted_inj (ledger.origin live) inserted same).1
  | cons event later induction =>
    rcases run with _ | ⟨before, step⟩
    rcases induction before with ⟨known, gone, never⟩
    rcases step.gone known gone with ⟨known, gone, now⟩
    refine ⟨known, gone, ?_⟩
    intro member
    rcases List.mem_append.mp member with here | there
    · exact now (List.mem_map_of_mem here)
    · exact never there

/-! ## Closing -/

theorem Step.closed (step : map.Step event next) (closed : map.closed)
    (empty : ∀ ref, map.live ref = none) :
    next.closed ∧ (∀ ref, next.live ref = none) ∧ ∀ ref timer, event ≠ .inserted ref timer := by
  cases step with
  | insert ref deadline waker isOpen fresh =>
    rw [isOpen] at closed
    cases closed
  | reject | tick | drop | wake => exact ⟨closed, empty, nofun⟩
  | cancel ref held =>
    refine ⟨closed, ?_, nofun⟩
    intro other
    simp only [update_apply, empty, ite_self]
  | fire party after expired wakes more free batch =>
    refine ⟨closed, ?_, nofun⟩
    exact fun ref => (batch.rest ref).trans (by rw [empty, ite_self])
  | close party wakes free once all => exact ⟨rfl, fun _ => rfl, nofun⟩

theorem Run.closed (run : Run (later ++ .closed party wakes :: earlier) map) :
    map.closed ∧ (∀ ref, map.live ref = none) ∧ ∀ ref timer, .inserted ref timer ∉ later := by
  induction later generalizing map with
  | nil =>
    rcases run with _ | ⟨before, step⟩
    cases step with
    | close => exact ⟨rfl, fun _ => rfl, nofun⟩
  | cons event later induction =>
    rcases run with _ | ⟨before, step⟩
    rcases induction before with ⟨closed, empty, none⟩
    rcases step.closed closed empty with ⟨stays, still, now⟩
    refine ⟨stays, still, ?_⟩
    intro ref timer inside
    rcases List.mem_cons.mp inside with here | there
    · exact now ref timer here.symm
    · exact none ref timer there

/-! ## Returning -/

/-- After the last critical section of a call, the only timers in the map that were due at its
clock reading are new ones. -/
theorem Run.none_due (run : Run (later ++ event :: earlier) map)
    (last : event.sectionOf party = some false) :
    ∃ before, Run earlier before ∧ ∀ ref timer, map.live ref = some timer →
      .inserted ref timer ∈ later ∨ before.clock < timer.deadline := by
  induction later generalizing map with
  | nil =>
    rcases run with _ | ⟨before, step⟩
    refine ⟨_, before, fun ref timer live => .inr ?_⟩
    cases step with
    | fire other after expired wakes more free batch =>
      refine batch.complete ?_ ref timer live
      simp only [Event.sectionOf] at last
      split at last
      · exact Option.some.inj last
      · cases last
    | close => cases live
    | _ => cases last
  | cons event later induction =>
    rcases run with _ | ⟨before, step⟩
    rcases induction before with ⟨start, earlier, due⟩
    refine ⟨start, earlier, fun ref timer live => ?_⟩
    rcases step.live_or_inserted live with before | rfl
    · exact (due ref timer before).imp_left (List.mem_cons_of_mem _)
    · exact .inl List.mem_cons_self

end TimerMap

end CoroRuntime.Timers
