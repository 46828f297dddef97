import CoroRuntime.Barrier.Barrier
import Mathlib.Data.List.Nodup

/-! # The rounds of a barrier

The arrivals, numbered from 0, determine everything: arrival `k` belongs to round `k / n`, it
leads that round if it is the last of it, and it is released once the round is complete.
-/

namespace CoroRuntime.Barrier

open Foundation
open Function (update update_self update_of_ne)

/-! ## Rounds of numbers -/

theorem next_in_round (more : length % n + 1 < n) :
    (length + 1) % n = length % n + 1 ∧ (length + 1) / n = length / n := by
  have positive : 0 < n := Nat.zero_lt_of_lt more
  have whole : length + 1 = n * (length / n) + (length % n + 1) := by
    have parts := Nat.div_add_mod length n
    omega
  rw [whole, Nat.mul_add_mod, Nat.mul_add_div positive, Nat.mod_eq_of_lt more,
    Nat.div_eq_of_lt more]
  exact ⟨by simp, rfl⟩

theorem last_in_round (positive : 0 < n) (last : ¬ length % n + 1 < n) :
    length % n + 1 = n ∧ (length + 1) % n = 0 ∧ (length + 1) / n = length / n + 1 := by
  have small := Nat.mod_lt length positive
  have full : length % n + 1 = n := by omega
  have whole : length + 1 = n * (length / n + 1) := by
    have parts := Nat.div_add_mod length n
    rw [Nat.mul_add, Nat.mul_one]
    omega
  rw [whole, Nat.mul_mod_right, Nat.mul_div_cancel_left _ positive]
  exact ⟨full, rfl, rfl⟩

/-! ## The leader's wakers -/

section Release

variable {Item : Type u}

theorem fillInline_spec (items : List Item) (woken : Nat) (slots : List (Option Item))
    (room : woken + items.length ≤ slots.length) :
    (fillInline items woken slots).2 = woken + items.length ∧
      (fillInline items woken slots).1.take (woken + items.length) =
        slots.take woken ++ items.map some := by
  induction items generalizing woken slots with
  | nil => exact ⟨rfl, by simp [fillInline]⟩
  | cons item rest induction =>
    rw [List.length_cons] at room
    have fits : woken < slots.length := by omega
    rcases induction (woken + 1) (slots.set woken (some item))
      (by rw [List.length_set]; omega) with ⟨count, filled⟩
    rw [fillInline, List.length_cons, show woken + (rest.length + 1) = woken + 1 + rest.length by
      omega]
    refine ⟨count, ?_⟩
    rw [filled, List.map_cons, List.take_add_one, List.take_set_of_le (Nat.le_refl _)]
    simp [fits]

/-- Whether they are few or many, every waker is there to be called, in order. -/
theorem collected_eq (items : List Item) : collected items = items.map some := by
  rw [collected]
  split
  · rfl
  · rename_i few
    have spec := fillInline_spec items 0 (List.replicate inlineCapacity none)
      (by rw [List.length_replicate]; omega)
    simpa [spec.1] using spec.2

end Release

/-! ## Arrivals -/

variable {Id : Type u} {Waker : Type v} [DecidableEq Id] {n : Nat} {state next : State Id Waker}

def State.place (state : State Id Waker) (id : Id) : Nat := state.arrivals.idxOf id

/-- What is known of a future, from the place of its arrival. -/
def Fits (n : Nat) (state : State Id Waker) (id : Id) : Life Waker → Prop
  | .unborn => id ∉ state.arrivals ∧ id ∉ state.waiters
  | .dropped => id ∉ state.waiters
  | .alive future =>
    match future.phase with
    | .init => id ∉ state.arrivals ∧ id ∉ state.waiters
    | .waiting generation => id ∈ state.arrivals ∧ state.place id / n = generation ∧
        state.place id % n + 1 < n ∧ (id ∈ state.waiters ↔ generation = state.generation) ∧
        (generation = state.generation → future.waker.isSome)
    | .done leader => id ∈ state.arrivals ∧ state.place id / n < state.generation ∧
        (leader ↔ state.place id % n + 1 = n) ∧ id ∉ state.waiters

structure Inv (n : Nat) (state : State Id Waker) : Prop where
  arrived : state.arrived = state.arrivals.length % n
  generation : state.generation = state.arrivals.length / n
  nodup : state.arrivals.Nodup
  fits : ∀ id, Fits n state id (state.futures id)
  waiters_nodup : state.waiters.Nodup
  waking : ∀ call ∈ state.waking, call.2.isSome
  /-- Who was linked at a release has been woken or is about to be. -/
  calls : (state.woken ++ state.waking.map Prod.fst).Perm state.released
  released_nodup : state.released.Nodup
  released : ∀ id ∈ state.released, id ∈ state.arrivals ∧ state.place id / n < state.generation

theorem Fits.frame {id : Id} (fits : Fits n state id life)
    (arrivals : id ∈ next.arrivals ↔ id ∈ state.arrivals)
    (place : id ∈ state.arrivals → next.place id = state.place id)
    (waiters : id ∈ next.waiters ↔ id ∈ state.waiters)
    (generation : next.generation = state.generation) : Fits n next id life := by
  cases life with
  | unborn | dropped => simpa only [Fits, arrivals, waiters] using fits
  | alive future =>
    simp only [Fits] at fits ⊢
    cases phase : future.phase with
    | init => simpa only [phase, arrivals, waiters] using fits
    | waiting round | done leader =>
      simp only [phase] at fits ⊢
      rw [arrivals, waiters, generation, place fits.1]
      exact fits

theorem Fits.release {id : Id} (fits : Fits n state id (state.futures id))
    (arrivals : id ∈ next.arrivals ↔ id ∈ state.arrivals)
    (place : id ∈ state.arrivals → next.place id = state.place id)
    (waiters : next.waiters = []) (generation : next.generation = state.generation + 1)
    (past : id ∈ state.arrivals → state.place id / n ≤ state.generation) :
    Fits n next id (state.release.futures id) := by
  simp only [State.release]
  cases life : state.futures id with
  | unborn =>
    rw [life] at fits
    exact ⟨fun inside => fits.1 (arrivals.mp inside), by simp [waiters]⟩
  | dropped => simp [Fits, waiters]
  | alive future =>
    have same : (if id ∈ state.waiters then { future with waker := none } else future).phase =
        future.phase := by
      split <;> rfl
    rw [life] at fits
    simp only [Fits, same] at fits ⊢
    cases phase : future.phase with
    | init =>
      rw [phase] at fits
      exact ⟨fun inside => fits.1 (arrivals.mp inside), by simp [waiters]⟩
    | waiting round | done leader =>
      simp only [phase] at fits ⊢
      rw [arrivals, waiters, generation, place fits.1]
      have before := past fits.1
      grind

namespace Inv

theorem initial : Inv n ({} : State Id Waker) := by
  constructor
  case calls => exact .refl _
  case fits => exact fun _ => ⟨nofun, nofun⟩
  all_goals simp

theorem place_of_mem {id : Id} (inside : other ∈ state.arrivals)
    (appended : next.arrivals = state.arrivals ++ [id]) : next.place other = state.place other := by
  rw [State.place, appended, List.idxOf_append_of_mem inside, State.place]

theorem place_self {id : Id} (new : id ∉ state.arrivals)
    (appended : next.arrivals = state.arrivals ++ [id]) :
    next.place id = state.arrivals.length := by
  rw [State.place, appended, List.idxOf_append_of_notMem new, List.idxOf_cons_self, Nat.add_zero]

omit [DecidableEq Id] in
theorem mem_append_iff {id : Id} (apart : other ≠ id) : other ∈ items ++ [id] ↔ other ∈ items := by
  rw [List.mem_append, List.mem_singleton, or_iff_left apart]

variable (inv : Inv n state)

include inv

theorem place_le {id : Id} (inside : id ∈ state.arrivals) :
    state.place id / n ≤ state.generation := by
  rw [inv.generation]
  exact Nat.div_le_div_right (Nat.le_of_lt (List.idxOf_lt_length_of_mem inside))

theorem released_append {id : Id}
    (appended : next.arrivals = state.arrivals ++ [id])
    (grows : state.generation ≤ next.generation) :
    ∀ other ∈ state.released, other ∈ next.arrivals ∧ next.place other / n < next.generation := by
  intro other inside
  rcases inv.released other inside with ⟨arrival, behind⟩
  rw [place_of_mem arrival appended, appended]
  exact ⟨List.mem_append_left _ arrival, Nat.lt_of_lt_of_le behind grows⟩

theorem suspend {id : Id} (new : id ∉ state.arrivals) (unlinked : id ∉ state.waiters)
    (more : state.arrived + 1 < n) (appended : next.arrivals = state.arrivals ++ [id])
    (arrived : next.arrived = state.arrived + 1) (generation : next.generation = state.generation)
    (waiters : next.waiters = state.waiters ++ [id])
    (futures : next.futures = update state.futures id
      (.alive ⟨.waiting state.generation, some waker⟩)) (waking : next.waking = state.waking)
    (released : next.released = state.released) (woken : next.woken = state.woken) :
    Inv n next := by
  rw [inv.arrived] at more
  rcases next_in_round more with ⟨modulo, divided⟩
  have length : next.arrivals.length = state.arrivals.length + 1 := by
    rw [appended, List.length_append, List.length_singleton]
  have mine := place_self new appended
  constructor
  case arrived => rw [arrived, length, modulo, inv.arrived]
  case generation => rw [generation, length, divided, inv.generation]
  case nodup =>
    rw [appended]
    exact List.nodup_append.mpr ⟨inv.nodup, List.nodup_singleton id, by grind⟩
  case fits =>
    intro other
    rw [futures]
    by_cases here : other = id
    · subst here
      rw [update_self]
      refine ⟨?_, ?_, ?_, ?_, fun _ => rfl⟩
      · simp [appended]
      · rw [mine, inv.generation]
      · rwa [mine]
      · simp [waiters, generation]
    · rw [update_of_ne here]
      exact (inv.fits other).frame (by rw [appended, mem_append_iff here])
        (fun inside => place_of_mem inside appended) (by rw [waiters, mem_append_iff here])
        generation
  case waiters_nodup =>
    rw [waiters]
    exact List.nodup_append.mpr ⟨inv.waiters_nodup, List.nodup_singleton id, by grind⟩
  case waking => rw [waking]; exact inv.waking
  case calls => rw [waking, woken, released]; exact inv.calls
  case released_nodup => rw [released]; exact inv.released_nodup
  case released =>
    rw [released]
    exact inv.released_append appended (Nat.le_of_eq generation.symm)

theorem linked_waiting {id : Id} (linked : id ∈ state.waiters) :
    ∃ future, state.futures id = .alive future ∧ future.phase = .waiting state.generation ∧
      id ∈ state.arrivals ∧ state.place id / n = state.generation ∧ future.waker.isSome := by
  have fits := inv.fits id
  cases life : state.futures id with
  | unborn => rw [life] at fits; exact absurd linked fits.2
  | dropped => rw [life] at fits; exact absurd linked fits
  | alive future =>
    rw [life] at fits
    simp only [Fits] at fits
    cases phase : future.phase with
    | init => rw [phase] at fits; exact absurd linked fits.2
    | done leader => rw [phase] at fits; exact absurd linked fits.2.2.2
    | waiting round =>
      rw [phase] at fits
      rcases fits with ⟨arrival, here, -, current, armed⟩
      have now := current.mp linked
      exact ⟨future, rfl, now ▸ phase, arrival, here.trans now, armed now⟩

theorem waiter_unreleased {id : Id} (linked : id ∈ state.waiters) :
    id ∉ state.released ∧ id ∈ state.arrivals ∧ state.place id / n = state.generation ∧
      (state.nodeWaker id).isSome := by
  rcases inv.linked_waiting linked with ⟨future, life, -, arrival, now, armed⟩
  refine ⟨?_, arrival, now, by rwa [State.nodeWaker, life]⟩
  intro past
  have behind := (inv.released id past).2
  omega

theorem lead (positive : 0 < n) {id : Id} (new : id ∉ state.arrivals)
    (last : ¬ state.arrived + 1 < n)
    (appended : next.arrivals = state.arrivals ++ [id])
    (futures : next.futures = update state.release.futures id (.alive ⟨.done true, none⟩))
    (arrived : next.arrived = 0) (generation : next.generation = state.generation + 1)
    (waiters : next.waiters = []) (waking : next.waking = state.release.waking)
    (released : next.released = state.released ++ state.waiters)
    (woken : next.woken = state.woken) : Inv n next := by
  rw [inv.arrived] at last
  rcases last_in_round positive last with ⟨full, modulo, divided⟩
  have length : next.arrivals.length = state.arrivals.length + 1 := by
    rw [appended, List.length_append, List.length_singleton]
  have mine := place_self new appended
  have calls : state.release.waking =
      state.waking ++ state.waiters.map fun id => (id, state.nodeWaker id) := by
    simp [State.release, collected_eq]
  constructor
  case arrived => rw [arrived, length, modulo]
  case generation => rw [generation, length, divided, inv.generation]
  case nodup =>
    rw [appended]
    exact List.nodup_append.mpr ⟨inv.nodup, List.nodup_singleton id, by grind⟩
  case fits =>
    intro other
    rw [futures]
    by_cases here : other = id
    · subst here
      rw [update_self]
      refine ⟨by simp [appended], ?_, ?_, by simp [waiters]⟩
      · rw [mine, generation, inv.generation]
        exact Nat.lt_succ_self _
      · rw [mine]
        simp [full]
    · rw [update_of_ne here]
      exact (inv.fits other).release (by rw [appended, mem_append_iff here])
        (fun inside => place_of_mem inside appended) waiters generation
        fun inside => inv.place_le inside
  case waiters_nodup => rw [waiters]; exact List.nodup_nil
  case waking =>
    rw [waking, calls]
    intro call inside
    rcases List.mem_append.mp inside with before | taken
    · exact inv.waking call before
    · rcases List.mem_map.mp taken with ⟨other, linked, rfl⟩
      exact (inv.waiter_unreleased linked).2.2.2
  case calls =>
    rw [waking, woken, released, calls, List.map_append, List.map_map, ← List.append_assoc]
    refine List.Perm.append inv.calls ?_
    exact List.Perm.of_eq (by simp [Function.comp_def])
  case released_nodup =>
    rw [released]
    refine List.nodup_append.mpr ⟨inv.released_nodup, inv.waiters_nodup, ?_⟩
    rintro other past other' linked rfl
    exact (inv.waiter_unreleased linked).1 past
  case released =>
    rw [released]
    intro other inside
    rcases List.mem_append.mp inside with past | linked
    · exact inv.released_append appended (by omega) other past
    · rcases inv.waiter_unreleased linked with ⟨-, arrival, current, -⟩
      rw [place_of_mem arrival appended, appended, current, generation]
      exact ⟨List.mem_append_left _ arrival, Nat.lt_succ_self _⟩

theorem put {id : Id} (fits : Fits n state id life) :
    Inv n (state.put id life) where
  arrived := inv.arrived
  generation := inv.generation
  nodup := inv.nodup
  fits := by
    intro other
    by_cases here : other = id
    · subst here
      simp only [State.put, update_self]
      exact fits.frame Iff.rfl (fun _ => rfl) Iff.rfl rfl
    · simp only [State.put, update_of_ne here]
      exact (inv.fits other).frame Iff.rfl (fun _ => rfl) Iff.rfl rfl
  waiters_nodup := inv.waiters_nodup
  waking := inv.waking
  calls := inv.calls
  released_nodup := inv.released_nodup
  released := inv.released

theorem poll (positive : 0 < n) {id : Id} (found : state.futures id = .alive future) (waker : Waker)
    (allocates : Bool) : Inv n (state.poll n id future waker allocates).2 := by
  have fits := inv.fits id
  rw [found] at fits
  simp only [Fits] at fits
  rw [State.poll]
  cases phase : future.phase with
  | done leader => exact inv
  | waiting round =>
    rw [phase] at fits
    rcases fits with ⟨arrival, here, notLast, linked, armed⟩
    have past := inv.place_le arrival
    dsimp only
    split
    · rename_i behind
      refine inv.put ⟨arrival, by omega, ?_, fun inside => behind (linked.mp inside).symm⟩
      simp [Nat.ne_of_lt notLast]
    · exact inv.put ⟨arrival, here, notLast, linked, fun _ => rfl⟩
  | init =>
    rw [phase] at fits
    simp only [State.arrive]
    split
    · exact inv.suspend fits.1 fits.2 ‹_› rfl rfl rfl rfl rfl rfl rfl rfl
    split
    · exact inv
    · exact inv.lead positive fits.1 ‹_› rfl rfl rfl rfl rfl rfl rfl rfl

theorem unlink (id : Id) :
    Inv n ({ state with waiters := state.waiters.erase id }.put id .dropped) where
  arrived := inv.arrived
  generation := inv.generation
  nodup := inv.nodup
  fits := by
    intro other
    by_cases here : other = id
    · subst here
      simp only [State.put, update_self]
      exact inv.waiters_nodup.not_mem_erase
    · simp only [State.put, update_of_ne here]
      exact (inv.fits other).frame Iff.rfl (fun _ => rfl) (List.mem_erase_of_ne here) rfl
  waiters_nodup := inv.waiters_nodup.erase id
  waking := inv.waking
  calls := inv.calls
  released_nodup := inv.released_nodup
  released := inv.released

theorem drop {id : Id} (found : state.futures id = .alive future) :
    Inv n (state.drop id future) := by
  have fits := inv.fits id
  rw [found] at fits
  simp only [Fits] at fits
  rw [State.drop]
  cases phase : future.phase with
  | init =>
    rw [phase] at fits
    exact inv.put fits.2
  | done leader =>
    rw [phase] at fits
    exact inv.put fits.2.2.2
  | waiting round =>
    rw [phase] at fits
    dsimp only
    split
    · exact inv.unlink id
    · rename_i behind
      exact inv.put fun inside => behind (fits.2.2.2.1.mp inside).symm

theorem wake {id : Id} (called : state.waking.any (wakesFuture id)) :
    Inv n { state with
      waking := state.waking.eraseP (wakesFuture id)
      woken := state.woken ++ [id] } where
  arrived := inv.arrived
  generation := inv.generation
  nodup := inv.nodup
  fits other := (inv.fits other).frame Iff.rfl (fun _ => rfl) Iff.rfl rfl
  waiters_nodup := inv.waiters_nodup
  waking other inside := inv.waking other (List.mem_of_mem_eraseP inside)
  calls := by
    rcases List.any_eq_true.mp called with ⟨call, inside, mine⟩
    rcases List.exists_of_eraseP inside mine with ⟨other, before, after, -, first, whole, erased⟩
    simp only [wakesFuture, Bool.and_eq_true, decide_eq_true_eq] at first
    have calls := inv.calls
    rw [whole, List.map_append, List.map_cons, first.1] at calls
    rw [erased, List.map_append, List.append_assoc, List.singleton_append]
    exact (List.perm_middle.symm.append_left state.woken).trans calls
  released_nodup := inv.released_nodup
  released := inv.released

theorem step (positive : 0 < n) (stepped : Barrier.step n state move = some next) : Inv n next := by
  cases move with simp only [Barrier.step] at stepped
  | wait id =>
    split at stepped <;> cases stepped
    rename_i unborn
    have fits := inv.fits id
    rw [unborn] at fits
    exact inv.put fits
  | poll id waker allocates =>
    split at stepped <;> cases stepped
    rename_i found
    exact inv.poll positive found waker allocates
  | drop id =>
    split at stepped <;> cases stepped
    rename_i found
    exact inv.drop found
  | wake id =>
    rcases of_guard stepped with ⟨called, rfl⟩
    exact inv.wake called

end Inv

/-! ## What a barrier promises -/

/-- The round of an arrival and its place in it, and what follows for the polls and the end of
every future. -/
structure RoundsKept (n : Nat) (state : State Id Waker) : Prop where
  grouped : state.arrived = state.arrivals.length % n ∧
    state.generation = state.arrivals.length / n
  once : state.arrivals.Nodup
  /-- The first poll is the arrival; the last one of a round leads it and does not suspend. It
  fails only if there are more waiters than slots and no vector for them. -/
  arrives : ∀ id future waker allocates, state.futures id = .alive future →
    id ∉ state.arrivals → ∃ result after, state.poll n id future waker allocates = (result, after) ∧
      result = (if (state.arrivals.length + 1) % n ≠ 0 then .pending
        else if inlineCapacity < state.waiters.length ∧ allocates = false then .error
        else .ready true) ∧
      if result = .error then after = state else after.arrivals = state.arrivals ++ [id]
  /-- Later polls resolve once the round is complete, and not before. -/
  resolves : ∀ id future place waker allocates, state.futures id = .alive future →
    state.arrivals[place]? = some id →
      (state.poll n id future waker allocates).1 =
        if (place + 1) % n = 0 then .ready true
        else if place / n < state.generation then .ready false else .pending
  /-- Who is linked: the suspended futures of the round that is under way. -/
  linked : ∀ id, id ∈ state.waiters ↔ ∃ future place, state.futures id = .alive future ∧
    future.phase = .waiting (place / n) ∧ state.arrivals[place]? = some id ∧
      place / n = state.generation
  linked_once : state.waiters.Nodup
  /-- A linked future has the waker of its last poll. -/
  registers : ∀ id future waker allocates after, state.futures id = .alive future →
    state.poll n id future waker allocates = (.pending, after) → after.nodeWaker id = some waker
  registered : ∀ move next id, step n state move = some next → id ∈ state.waiters →
    id ∈ next.waiters → (∀ waker allocates, move ≠ .poll id waker allocates) →
      next.nodeWaker id = state.nodeWaker id
  /-- The leader releases everybody who is linked, and takes their wakers. -/
  releases : ∀ id future waker allocates after, state.futures id = .alive future →
    id ∉ state.arrivals → state.poll n id future waker allocates = (.ready true, after) →
      after.released = state.released ++ state.waiters ∧ after.waiters = [] ∧
      after.waking = state.waking ++ state.waiters.map fun id => (id, state.nodeWaker id)
  /-- Everybody who was released has been woken once, or will be. -/
  woken : (state.woken ++ state.waking.map Prod.fst).Perm state.released ∧
    state.released.Nodup ∧ ∀ call ∈ state.waking, call.2.isSome
  /-- A future that is dropped stays counted. It is unlinked if it is linked, and if it is from
  an earlier round, it is not. -/
  drops : ∀ id future place, state.futures id = .alive future →
    future.phase = .waiting (place / n) → state.arrivals[place]? = some id →
      (state.drop id future).arrivals = state.arrivals ∧
      (state.drop id future).waiters = state.waiters.erase id ∧
      id ∉ (state.drop id future).waiters ∧ (place / n ≠ state.generation → id ∉ state.waiters)

theorem Inv.place_eq (inv : Inv n state) {id : Id} (there : state.arrivals[place]? = some id) :
    id ∈ state.arrivals ∧ state.place id = place := by
  rcases List.getElem?_eq_some_iff.mp there with ⟨bound, rfl⟩
  exact ⟨List.getElem_mem bound, inv.nodup.idxOf_getElem place bound⟩

theorem last_iff (positive : 0 < n) : (place + 1) % n = 0 ↔ place % n + 1 = n := by
  by_cases more : place % n + 1 < n
  · rw [(next_in_round more).1]
    omega
  · have last := last_in_round positive more
    exact iff_of_true last.2.1 last.1

theorem Inv.arrives (inv : Inv n state) (positive : 0 < n) {id : Id}
    (first : future.phase = .init) :
    ∃ result after, state.poll n id future waker allocates = (result, after) ∧
      result = (if (state.arrivals.length + 1) % n ≠ 0 then .pending
        else if inlineCapacity < state.waiters.length ∧ allocates = false then .error
        else .ready true) ∧
      if result = .error then after = state else after.arrivals = state.arrivals ++ [id] := by
  refine ⟨_, _, rfl, ?_⟩
  simp only [first, State.arrive, inv.arrived, ne_eq, last_iff positive]
  have small := Nat.mod_lt state.arrivals.length positive
  split
  · rename_i more
    exact ⟨by rw [if_pos (Nat.ne_of_lt more)], rfl⟩
  · rename_i last
    rw [if_neg (not_not.mpr (by omega))]
    split
    · exact ⟨rfl, rfl⟩
    · exact ⟨rfl, rfl⟩

omit [DecidableEq Id] in
theorem nodeWaker_eq {id : Id} (same : next.futures id = state.futures id) :
    next.nodeWaker id = state.nodeWaker id := by
  rw [State.nodeWaker, State.nodeWaker, same]

theorem Inv.resolves (inv : Inv n state) (positive : 0 < n) {id : Id} (waker : Waker)
    (allocates : Bool) (found : state.futures id = .alive future)
    (there : state.arrivals[place]? = some id) :
    (state.poll n id future waker allocates).1 =
      if (place + 1) % n = 0 then .ready true
      else if place / n < state.generation then .ready false else .pending := by
  have fits := inv.fits id
  rcases inv.place_eq there with ⟨inside, same⟩
  have past := inv.place_le inside
  rw [found] at fits
  simp only [Fits, same] at fits past
  simp only [State.poll, last_iff positive]
  cases phase : future.phase with
  | init =>
    rw [phase] at fits
    exact absurd inside fits.1
  | done leader =>
    rw [phase] at fits
    rcases fits with ⟨-, behind, leads, -⟩
    cases leader <;> simp_all
  | waiting round =>
    rw [phase] at fits
    rcases fits with ⟨-, rfl, more, -, -⟩
    rw [if_neg (Nat.ne_of_lt more)]
    dsimp only
    split
    · rw [if_pos (by omega)]
    · rw [if_neg (by omega)]

theorem Inv.linked_iff (inv : Inv n state) (id : Id) :
    id ∈ state.waiters ↔ ∃ future place, state.futures id = .alive future ∧
      future.phase = .waiting (place / n) ∧ state.arrivals[place]? = some id ∧
        place / n = state.generation := by
  have fits := inv.fits id
  constructor
  · intro inside
    rcases inv.linked_waiting inside with ⟨future, life, phase, arrival, now, -⟩
    exact ⟨future, state.place id, life, by rw [phase, now], List.getElem?_idxOf arrival, now⟩
  · rintro ⟨future, place, found, phase, -, current⟩
    rw [found] at fits
    simp only [Fits, phase] at fits
    exact fits.2.2.2.1.mpr current

theorem Inv.drops (inv : Inv n state) {id : Id} {round : Nat}
    (found : state.futures id = .alive future) (phase : future.phase = .waiting round) :
    (state.drop id future).arrivals = state.arrivals ∧
      (state.drop id future).waiters = state.waiters.erase id ∧
      id ∉ (state.drop id future).waiters ∧ (round ≠ state.generation → id ∉ state.waiters) := by
  have fits := inv.fits id
  rw [found] at fits
  simp only [Fits, phase] at fits
  rcases fits with ⟨-, -, -, linked, -⟩
  have gone : id ∉ state.waiters.erase id := inv.waiters_nodup.not_mem_erase
  rw [State.drop, phase]
  dsimp only
  split
  · exact ⟨rfl, rfl, gone, fun behind inside => behind (linked.mp inside)⟩
  · rename_i behind
    have unlinked : id ∉ state.waiters := fun inside => behind (linked.mp inside).symm
    exact ⟨rfl, (List.erase_of_not_mem unlinked).symm, unlinked, fun _ => unlinked⟩

/-- A linked future keeps its waker until it is polled again. -/
theorem Inv.registered (inv : Inv n state) {id : Id}
    (stepped : Barrier.step n state move = some next) (linked : id ∈ state.waiters)
    (stays : id ∈ next.waiters) (other : ∀ waker allocates, move ≠ .poll id waker allocates) :
    next.nodeWaker id = state.nodeWaker id := by
  rcases inv.linked_waiting linked with ⟨future, life, phase, -⟩
  apply nodeWaker_eq
  cases move with simp only [Barrier.step] at stepped
  | wait new =>
    split at stepped <;> cases stepped
    rename_i unborn
    refine update_of_ne ?_ ..
    rintro rfl
    cases unborn.symm.trans life
  | poll polled waker allocates =>
    have apart : id ≠ polled := fun same => other waker allocates (same ▸ rfl)
    split at stepped <;> cases stepped
    revert stays
    unfold State.poll State.arrive
    repeat' split
    all_goals intro stays
    all_goals first
      | rfl
      | exact update_of_ne apart ..
      | cases stays
  | drop gone =>
    split at stepped <;> cases stepped
    rename_i found
    have apart : id ≠ gone := by
      rintro rfl
      cases life.symm.trans found
      exact (inv.drops found phase).2.2.1 stays
    unfold State.drop
    repeat' split
    all_goals exact update_of_ne apart ..
  | wake =>
    rcases of_guard stepped with ⟨-, rfl⟩
    rfl

/-- Every run of a barrier for `n` tasks keeps its rounds. -/
theorem barrier_rounds_kept (positive : 0 < n)
    (reached : (barrierMachine Id Waker n).Reaches anyMove state) :
    RoundsKept n state := by
  have inv : Inv n state := reached.invariant _
    (fun _ _ _ inv _ stepped => inv.step positive stepped) .initial
  have unarrived : ∀ id future, state.futures id = .alive future → id ∉ state.arrivals →
      future.phase = .init := by
    intro id future found new
    have fits := inv.fits id
    rw [found] at fits
    simp only [Fits] at fits
    cases phase : future.phase with
    | init => rfl
    | waiting round | done leader =>
      rw [phase] at fits
      exact absurd fits.1 new
  constructor
  case grouped => exact ⟨inv.arrived, inv.generation⟩
  case once => exact inv.nodup
  case arrives =>
    intro id future waker allocates found new
    exact inv.arrives positive (unarrived id future found new)
  case resolves =>
    intro id future place waker allocates found there
    exact inv.resolves positive waker allocates found there
  case linked => exact inv.linked_iff
  case linked_once => exact inv.waiters_nodup
  case releases =>
    intro id future waker allocates after found new polled
    rw [State.poll, unarrived id future found new] at polled
    simp only [State.arrive] at polled
    split at polled
    · cases polled
    split at polled <;> cases polled
    refine ⟨rfl, rfl, ?_⟩
    simp [State.put, State.release, collected_eq]
  case registers =>
    intro id future waker allocates after found polled
    unfold State.poll State.arrive at polled
    repeat' split at polled
    all_goals cases polled
    all_goals simp [State.nodeWaker, State.put]
  case registered =>
    exact fun _ _ _ stepped linked stays other => inv.registered stepped linked stays other
  case woken => exact ⟨inv.calls, inv.released_nodup, inv.waking⟩
  case drops =>
    intro id future place found phase _
    exact inv.drops found phase

/-- Eighteen of nineteen arrive and one of them is dropped. The last one fails to allocate a
vector for the other seventeen, and leads the round when it is polled again. -/
theorem barrier_rounds_kept_nineteen :
    ∃ state : State Nat Nat, (barrierMachine Nat Nat 19).Reaches anyMove state ∧ 0 < 19 ∧
      state.arrivals = List.range 19 ∧ state.released.length = 17 ∧ state.woken = [3] ∧
      RoundsKept 19 state := by
  refine exists_of_exec
    ((List.range 19).map .wait ++ (List.range 18).map (fun id => .poll id id true) ++
      [.drop 5, .poll 18 7 false, .poll 18 8 true, .wake 3, .poll 3 9 true])
    (by decide +kernel) fun reached => ⟨?_, ?_, ?_, ?_, barrier_rounds_kept (by decide) reached⟩
  all_goals decide +kernel

end CoroRuntime.Barrier
