import Mathlib.Algebra.GroupWithZero.Nat
import CoroRuntime.Pico.Gpio

/-! # The stream of a pin's edges

`GpioPin::edges()` of `src/pico/hal/gpio.cpp` counts edges in an `IsrSemaphore` and stores no
directions: it recovers them from the direction of the latest edge and the number of edges
that are still to be drained. The interrupt handler may run on another core, between any two
critical sections of the stream. An edge that comes before the stream's first poll has armed its
bits is one before that poll.
-/

namespace CoroRuntime.Gpio

open Foundation

def edgeTo (toHigh : Bool) : Trigger := if toHigh then .edgeRise else .edgeFall

def levelAt (high : Bool) : Trigger := if high then .levelHigh else .levelLow

def Edge.fits (edge : Edge) (toHigh : Bool) : Bool := edgeIrqMask edge (edgeTo toHigh)

/-- Where the frame of the stream is: not polled yet, in `co_await m_edge_count.acquire()`, or
before the critical section of `m_dir_lock`. -/
inductive Phase
  | created
  | waiting
  | claimed
  deriving DecidableEq, Repr

structure Counters where
  level : Bool
  lastEdgeToHigh : Bool := false
  /-- a `uint32_t` -/
  pendingEdgeCount : Nat := 0
  /-- `m_count` of `m_edge_count` -/
  count : Nat := 0
  /-- `notify_irq()` is before its `release_from_isr()`. -/
  releasing : Bool := false
  phase : Phase := .created
  -- what has happened since the stream armed its bits
  occurred : List Bool := []
  yielded : List Bool := []

namespace Counters

variable (edge : Edge) (counters : Counters)

/-- The level changes, and `notify_irq()` runs up to its `release_from_isr()` if the bit of the
edge is enabled. -/
def transition (enabled : Bool) : Counters :=
  let toHigh := !counters.level
  { counters with
    level := toHigh
    lastEdgeToHigh := if enabled then toHigh else counters.lastEdgeToHigh
    pendingEdgeCount :=
      if enabled then (counters.pendingEdgeCount + 1) % 2 ^ 32 else counters.pendingEdgeCount
    releasing := enabled
    occurred := if counters.phase ≠ .created ∧ edge.fits toHigh then counters.occurred ++ [toHigh]
      else counters.occurred }

def release : Counters :=
  { counters with
    count := if counters.count = 2 ^ 32 - 1 then counters.count else counters.count + 1
    releasing := false }

def claim : Counters := { counters with count := counters.count - 1, phase := .claimed }

/-- What the critical section of `m_dir_lock` in `edges()` finds -/
def remaining : Nat := (2 ^ 32 - 1 + counters.pendingEdgeCount) % 2 ^ 32

def item : Bool :=
  if counters.remaining % 2 = 0 then counters.lastEdgeToHigh else !counters.lastEdgeToHigh

def yieldItem : Counters :=
  { counters with
    pendingEdgeCount := counters.remaining
    yielded := counters.yielded ++ [counters.item]
    phase := .waiting }

/-- The items are the matching transitions in order, all of them when none is to be drained. -/
structure Reports : Prop where
  ordered : counters.yielded <+: counters.occurred
  complete : counters.phase = .waiting → counters.releasing = false → counters.count = 0 →
    counters.yielded = counters.occurred

end Counters

structure EdgeStream where
  pin : GpioPin := {}
  counters : Counters

inductive StreamMove
  /-- another future is made, moved or destroyed, or an interrupt comes that reports no edge -/
  | other (move : Move)
  /-- the thread goes on in `acquire_mask()` or `release_mask()` -/
  | proceed
  | start
  | transition
  | release
  | claim
  | yieldItem

def Move.spares (pin : GpioPin) : Move → Bool
  | .waitForEdge _ | .waitForLevel .. | .moveConstruct _ | .moveAssign .. => true
  | .destroy index => (pin.future index).isSome
  | .event events => !events .edgeRise && !events .edgeFall
  | .edges _ | .proceed => false

def GpioPin.arm (pin : GpioPin) (edge : Edge) : Option GpioPin := do
  let called ← pin.step (.edges edge)
  let acquired ← called.proceed
  acquired.proceed

namespace EdgeStream

variable (edge : Edge) (stream : EdgeStream)

def enabled : Bool := stream.pin.enabled (edgeTo !stream.counters.level)

def step : StreamMove → Option EdgeStream
  | .other move =>
    if move.spares stream.pin then
      (stream.pin.step move).map fun pin => { stream with pin }
    else none
  | .proceed => stream.pin.proceed.map fun pin => { stream with pin }
  | .start =>
    if stream.counters.phase = .created then
      (stream.pin.arm edge).map fun pin =>
        ⟨pin, { stream.counters with phase := .waiting }⟩
    else none
  | .transition =>
    if stream.counters.releasing = false then
      let toHigh := !stream.counters.level
      some ⟨stream.pin.event fun trigger => trigger = edgeTo toHigh || trigger = levelAt toHigh,
        stream.counters.transition edge stream.enabled⟩
    else none
  | .release =>
    if stream.counters.releasing then some { stream with counters := stream.counters.release }
    else none
  | .claim =>
    if stream.counters.phase = .waiting ∧ stream.counters.count ≠ 0 then
      some { stream with counters := stream.counters.claim }
    else none
  | .yieldItem =>
    if stream.counters.phase = .claimed then
      some { stream with counters := stream.counters.yieldItem }
    else none

/-- Fewer than 256 futures hold a bit and fewer than 2^32 edges are to be drained. No edge has
been counted when the stream is polled first, and none that it does not match is counted later.
A stream of one direction drains each edge before the next one. -/
def orderly : StreamMove → Prop
  | .proceed => HasRoom stream.pin stream.pin.call
  | .start => HasRoom stream.pin (.acquiring (edgeIrqMask edge) none) ∧
      stream.counters.pendingEdgeCount = 0 ∧ stream.counters.count = 0 ∧
      stream.counters.releasing = false
  | .transition => stream.counters.phase ≠ .created → stream.enabled →
      edge.fits !stream.counters.level
  | .release => stream.counters.count < 2 ^ 32 - 1
  | .yieldItem => edge = .any ∨ stream.counters.pendingEdgeCount = 1
  | .other _ | .claim => True

instance (pin : GpioPin) (call : Call) : Decidable (HasRoom pin call) := by
  cases call <;> unfold HasRoom <;> infer_instance

instance (move : StreamMove) : Decidable (stream.orderly edge move) := by
  cases move <;> unfold orderly <;> infer_instance

end EdgeStream

def streamMachine (edge : Edge) (level : Bool) : Machine EdgeStream StreamMove where
  initial := { counters := { level } }
  step := EdgeStream.step edge

/-! ## The stream's bits stay enabled -/

def GpioPin.AssignsFutures (pin : GpioPin) : Prop :=
  match pin.call with
  | .disabling _ (some (target, source)) =>
    (pin.future target).isSome ∧ (pin.future source).isSome
  | .none | .acquiring .. | .enabling _ | .disabling _ none => True

theorem GpioPin.AssignsFutures.idle {pin : GpioPin} (idle : pin.call = .none) :
    pin.AssignsFutures := by
  simp only [GpioPin.AssignsFutures, idle]

structure GpioPin.Undisturbed (pin next : GpioPin) : Prop where
  streams : ∀ holder ∈ pin.holders, holder.stream → holder ∈ next.holders
  enabled : ∀ trigger, trigger.isLevel = false → pin.maskRefcount trigger ≠ 0 →
    pin.enabled trigger → next.enabled trigger
  assigns : pin.AssignsFutures → next.AssignsFutures

namespace GpioPin.Undisturbed

variable {pin next : GpioPin}

theorem mem_set (member : holder ∈ pin.holders) (stream : holder.stream)
    (is : pin.future index = some old) : holder ∈ pin.holders.set index new := by
  rcases Option.filter_eq_some_iff.mp is with ⟨found, kind⟩
  rcases List.mem_iff_getElem?.mp member with ⟨place, here⟩
  have apart : index ≠ place := by
    rintro rfl
    rw [found, Option.some.injEq] at here
    simp [here, stream] at kind
  exact List.mem_iff_getElem?.mpr ⟨place, by rw [List.getElem?_set_ne apart, here]⟩

theorem event (events : Mask) : pin.Undisturbed (pin.event events) := by
  unfold GpioPin.event
  simp only
  split
  · refine ⟨fun _ member _ => member, ?_, fun assigns => assigns⟩
    intro trigger edge _ on
    simp [GpioPin.notifyIrq, on, edge]
  · exact ⟨fun _ member _ => member, fun _ _ _ on => on, fun assigns => assigns⟩

theorem start (idle : pin.call = .none) (spares : move.spares pin)
    (step : pin.start move = some next) : pin.Undisturbed next := by
  cases move with
  | waitForEdge edge =>
    cases step
    exact ⟨fun _ member _ => member, fun _ _ _ on => on, fun _ => trivial⟩
  | waitForLevel level current =>
    simp only [GpioPin.start] at step
    split at step <;> cases step
    · exact ⟨fun _ member _ => List.mem_append_left _ member, fun _ _ _ on => on,
        fun _ => .idle idle⟩
    · exact ⟨fun _ member _ => member, fun _ _ _ on => on, fun _ => trivial⟩
  | destroy index =>
    rcases Option.isSome_iff_exists.mp spares with ⟨old, future⟩
    rcases Option.map_eq_some_iff.mp step with ⟨holder, found, rfl⟩
    exact ⟨fun _ member stream => mem_set member stream future, fun _ _ _ on => on,
      fun _ => trivial⟩
  | moveConstruct index =>
    rcases Option.map_eq_some_iff.mp step with ⟨holder, found, rfl⟩
    exact ⟨fun _ member stream => List.mem_append_left _ (mem_set member stream found),
      fun _ _ _ on => on, fun _ => .idle idle⟩
  | moveAssign target source =>
    rcases Option.ite_none_right_eq_some.mp step with ⟨⟨apart, other⟩, step⟩
    rcases Option.map_eq_some_iff.mp step with ⟨holder, found, rfl⟩
    refine ⟨fun _ member stream => mem_set member stream found, fun _ _ _ on => on, ?_⟩
    intro _
    rcases Option.filter_eq_some_iff.mp found with ⟨here, kind⟩
    have inside := (List.getElem?_eq_some_iff.mp here).1
    simp only [Bool.and_eq_true, Bool.not_eq_true'] at kind
    constructor
    · simp [GpioPin.future, GpioPin.releaseMask, inside, kind.2]
    · simpa [GpioPin.future, GpioPin.releaseMask, List.getElem?_set_ne apart] using other
  | edges | proceed => cases spares
  | event => cases step

theorem takeOver (futures : (pin.future target).isSome ∧ (pin.future source).isSome)
    (apart : target ≠ source) (member : holder ∈ pin.holders) (stream : holder.stream) :
    holder ∈ GpioPin.takeOver pin.holders (some (target, source)) := by
  rcases Option.isSome_iff_exists.mp futures.1 with ⟨old, replaced⟩
  rcases Option.isSome_iff_exists.mp futures.2 with ⟨moved, taken⟩
  have found := Inv.found_of_future taken
  let emptied : GpioPin :=
    { pin with holders := pin.holders.set source { moved with mask := fun _ => false } }
  have still : emptied.future target = some old := by
    rw [← replaced]
    simp only [GpioPin.future, emptied, List.getElem?_set_ne apart.symm]
  have kept : holder ∈ emptied.holders := mem_set member stream taken
  simp only [GpioPin.takeOver, found]
  exact mem_set kept stream still

theorem proceed (inv : Inv levels pin) (assigns : pin.AssignsFutures)
    (step : pin.proceed = some next) : pin.Undisturbed next := by
  unfold GpioPin.proceed at step
  split at step <;> cases step
  · exact ⟨fun _ member _ => List.mem_append_left _ member, fun _ _ _ on => on,
      fun _ => trivial⟩
  · exact ⟨fun _ member _ => member, fun _ _ _ on => by simp [on], fun _ => trivial⟩
  · rename_i toDisable assign is
    refine ⟨?_, ?_, fun _ => trivial⟩
    · intro holder member stream
      cases assign with
      | none => exact member
      | some pair =>
        have suits := inv.suits
        simp only [is, Call.Suits, GpioPin.AssignsFutures] at suits assigns
        exact takeOver assigns suits.1 member stream
    · intro trigger _ held on
      have kept : toDisable trigger = false := by
        by_contra off
        exact held (inv.disables trigger (by simpa [is, Call.disables] using off))
      simp [on, kept]

end GpioPin.Undisturbed

/-- A stream that has been polled holds its bits, and they are enabled. -/
structure Served (edge : Edge) (polled : Prop) (pin : GpioPin) : Prop where
  inv : Inv False pin
  assigns : pin.AssignsFutures
  holds : polled → ∃ holder ∈ pin.holders, holder.stream ∧ holder.mask = edgeIrqMask edge
  enabled : polled → ∀ trigger, edgeIrqMask edge trigger → pin.enabled trigger

namespace Served

variable {edge : Edge} {polled : Prop} {pin next : GpioPin} (served : Served edge polled pin)

include served

theorem undisturbed (inv : Inv False next) (undisturbed : pin.Undisturbed next) :
    Served edge polled next := by
  refine ⟨inv, undisturbed.assigns served.assigns, ?_, ?_⟩
  · intro polled
    rcases served.holds polled with ⟨holder, member, holds⟩
    exact ⟨holder, undisturbed.streams holder member holds.1, holds⟩
  · intro polled trigger asked
    rcases served.holds polled with ⟨holder, member, _, mask⟩
    exact undisturbed.enabled trigger (isLevel_of_edgeIrqMask asked)
      (served.inv.refcount_ne_zero member (by rw [mask]; exact asked))
      (served.enabled polled trigger asked)

theorem other (spares : move.spares pin) (step : pin.step move = some next) :
    Served edge polled next := by
  unfold GpioPin.step at step
  split at step
  · cases step
    exact served.undisturbed (served.inv.event _) (.event _)
  · cases spares
  · split at step
    · rename_i idle
      exact served.undisturbed (served.inv.start idle step) (.start idle spares step)
    · cases step

theorem arm (room : HasRoom pin (.acquiring (edgeIrqMask edge) none))
    (step : pin.arm edge = some next) : Served edge True next := by
  cases idle : pin.call with
  | none =>
    have called : Inv False { pin with call := .acquiring (edgeIrqMask edge) none } :=
      served.inv.call idle ⟨by simp, fun _ _ => isLevel_of_edgeIrqMask⟩
    have acquired := called.acquireMask rfl room False.elim
    simp only [GpioPin.arm, GpioPin.step, GpioPin.start, idle] at step
    cases step
    refine ⟨acquired.proceed trivial False.elim rfl, trivial, fun _ => ?_,
      fun _ trigger asked => ?_⟩
    · exact ⟨_, List.mem_append_right _ List.mem_cons_self, rfl, rfl⟩
    · have on := acquired.enabled _ (List.mem_append_right _ List.mem_cons_self) trigger asked
        (.inr (isLevel_of_edgeIrqMask asked))
      simpa [GpioPin.acquireMask, Call.enables] using on
  | acquiring | enabling | disabling => simp [GpioPin.arm, GpioPin.step, idle] at step

end Served

/-! ## Directions -/

theorem Edge.fits_unique {edge : Edge} (single : edge ≠ .any) (one : edge.fits first)
    (two : edge.fits second) : first = second := by
  cases edge <;> cases first <;> cases second <;> simp_all [Edge.fits, edgeIrqMask, edgeTo]

theorem Edge.any_fits (toHigh : Bool) : Edge.any.fits toHigh := by
  cases toHigh <;> rfl

/-- Once the stream is armed, the counters say how many transitions are to be drained. -/
structure Counted (edge : Edge) (counters : Counters) : Prop where
  fresh : counters.phase = .created → counters.occurred = [] ∧ counters.yielded = []
  ordered : counters.yielded <+: counters.occurred
  owed : counters.phase ≠ .created → counters.yielded.length + counters.count +
    counters.releasing.toNat + (decide (counters.phase = .claimed)).toNat = counters.occurred.length
  pending : counters.phase ≠ .created → counters.pendingEdgeCount =
    (counters.occurred.length - counters.yielded.length) % 2 ^ 32
  fits : ∀ toHigh ∈ counters.occurred, edge.fits toHigh
  latest : counters.occurred ≠ [] → edge.fits counters.lastEdgeToHigh
  /-- A stream of both directions sees every transition. -/
  level : edge = .any → counters.occurred ≠ [] → counters.lastEdgeToHigh = counters.level
  alternate : edge = .any → ∀ index < counters.occurred.length,
    counters.occurred[index]? = some (counters.lastEdgeToHigh ^^
      decide ((counters.occurred.length - index) % 2 = 0))

namespace Counted

variable {edge : Edge} {counters : Counters} (counted : Counted edge counters)

include counted

theorem item (claimed : counters.phase = .claimed)
    (orderly : edge = .any ∨ counters.pendingEdgeCount = 1) :
    counters.occurred[counters.yielded.length]? = some counters.item := by
  have owed := counted.owed (by simp [claimed])
  have pending := counted.pending (by simp [claimed])
  simp only [claimed, decide_true, Bool.toNat_true] at owed
  have more : counters.yielded.length < counters.occurred.length := by omega
  by_cases any : edge = .any
  · rw [counted.alternate any _ more, Counters.item]
    have parity : counters.remaining % 2 = 0 ↔
        ¬ (counters.occurred.length - counters.yielded.length) % 2 = 0 := by
      rw [Counters.remaining, pending]
      omega
    by_cases even : (counters.occurred.length - counters.yielded.length) % 2 = 0 <;>
      simp [parity, even]
  · have one : counters.pendingEdgeCount = 1 := orderly.resolve_left any
    have found := List.getElem?_eq_getElem more
    have same := Edge.fits_unique any (counted.fits _ (List.mem_of_getElem? found))
      (counted.latest (List.ne_nil_of_length_pos (by omega)))
    rw [found, same, Counters.item, Counters.remaining, one]
    rfl

theorem yieldItem (claimed : counters.phase = .claimed)
    (orderly : edge = .any ∨ counters.pendingEdgeCount = 1) : Counted edge counters.yieldItem := by
  have item := counted.item claimed orderly
  have owed := counted.owed (by simp [claimed])
  have pending := counted.pending (by simp [claimed])
  simp only [claimed, decide_true, Bool.toNat_true] at owed
  refine ⟨fun waits => (by cases waits), ?_, ?_, ?_, counted.fits, counted.latest,
    counted.level, counted.alternate⟩
  · rcases counted.ordered with ⟨rest, is⟩
    rw [← is, List.getElem?_append_right (Nat.le_refl _), Nat.sub_self] at item
    cases rest with
    | nil => cases item
    | cons first others =>
      rw [List.getElem?_cons_zero, Option.some.injEq] at item
      refine ⟨others, ?_⟩
      simpa [Counters.yieldItem, item] using is
  · intro _
    simp only [Counters.yieldItem, List.length_append, List.length_cons, List.length_nil,
      reduceCtorEq, decide_false, Bool.toNat_false]
    omega
  · intro _
    simp only [Counters.yieldItem, Counters.remaining, pending, List.length_append,
      List.length_cons, List.length_nil]
    omega

theorem claim (waits : counters.phase = .waiting) (some : counters.count ≠ 0) :
    Counted edge counters.claim := by
  have owed := counted.owed (by simp [waits])
  have pending := counted.pending (by simp [waits])
  simp only [waits, reduceCtorEq, decide_false, Bool.toNat_false] at owed
  refine { counted with
    fresh := fun claimed => (by cases claimed), owed := ?_, pending := fun _ => pending }
  intro _
  simp only [Counters.claim, decide_true, Bool.toNat_true]
  omega

theorem release (releasing : counters.releasing) (room : counters.count < 2 ^ 32 - 1) :
    Counted edge counters.release := by
  refine { counted with owed := ?_ }
  intro polled
  have owed := counted.owed polled
  rw [releasing, Bool.toNat_true] at owed
  simp only [Counters.release, if_neg (Nat.ne_of_lt room), Bool.toNat_false]
  omega

theorem start (created : counters.phase = .created) (none : counters.pendingEdgeCount = 0)
    (zero : counters.count = 0) (still : counters.releasing = false) :
    Counted edge { counters with phase := .waiting } := by
  rcases counted.fresh created with ⟨nothing, unpolled⟩
  constructor <;> simp [nothing, unpolled, none, zero, still]

theorem counts (polled : counters.phase ≠ .created) (still : counters.releasing = false)
    (fits : edge.fits !counters.level) : Counted edge (counters.transition edge true) := by
  have owed := counted.owed polled
  have pending := counted.pending polled
  simp only [still, Bool.toNat_false] at owed
  have appends : (counters.transition edge true).occurred =
      counters.occurred ++ [!counters.level] := if_pos ⟨polled, fits⟩
  refine ⟨fun created => absurd created polled, ?_, ?_, ?_, ?_, fun _ => fits, fun _ _ => rfl, ?_⟩
  · rw [appends]
    exact counted.ordered.trans (List.prefix_append ..)
  · intro _
    rw [appends, List.length_append]
    simp only [Counters.transition, Bool.toNat_true, List.length_singleton]
    omega
  · intro _
    rw [appends, List.length_append]
    simp only [Counters.transition, pending, if_true, List.length_singleton]
    omega
  · intro toHigh member
    rw [appends] at member
    rcases List.mem_append.mp member with before | now
    · exact counted.fits toHigh before
    · rw [List.mem_singleton.mp now]
      exact fits
  · intro any index inside
    simp only [appends, List.length_append, List.length_cons, List.length_nil] at inside ⊢
    by_cases before : index < counters.occurred.length
    · have nonempty : counters.occurred ≠ [] := List.ne_nil_of_length_pos (by omega)
      rw [List.getElem?_append_left before, counted.alternate any index before,
        counted.level any nonempty]
      have flips : (counters.occurred.length + 1 - index) % 2 = 0 ↔
          ¬ (counters.occurred.length - index) % 2 = 0 := by omega
      by_cases even : (counters.occurred.length - index) % 2 = 0 <;>
        simp [Counters.transition, flips, even]
    · have last : index = counters.occurred.length := by omega
      simp [last, Counters.transition]

theorem transition {enabled : Bool} (still : counters.releasing = false)
    (served : counters.phase ≠ .created → edge.fits !counters.level → enabled)
    (orderly : counters.phase ≠ .created → enabled → edge.fits !counters.level) :
    Counted edge (counters.transition edge enabled) := by
  by_cases created : counters.phase = .created
  · rcases counted.fresh created with ⟨nothing, unpolled⟩
    constructor <;> simp [Counters.transition, created, nothing, unpolled]
  · by_cases fits : edge.fits !counters.level
    · rw [served created fits]
      exact counted.counts created still fits
    · have off : enabled = false := by
        by_contra on
        exact fits (orderly created (by simpa using on))
      have single : edge ≠ .any := by
        rintro rfl
        exact fits (Edge.any_fits _)
      have owed := counted.owed
      rw [still] at owed
      simp only [off, Counters.transition, fits, and_false, Bool.false_eq_true, if_false]
      exact ⟨counted.fresh, counted.ordered, owed, counted.pending, counted.fits, counted.latest,
        fun any => absurd any single, counted.alternate⟩

theorem reports : counters.Reports := by
  refine ⟨counted.ordered, ?_⟩
  intro waits still zero
  have owed := counted.owed (by simp [waits])
  simp only [waits, still, zero, reduceCtorEq, decide_false, Bool.toNat_false] at owed
  exact counted.ordered.eq_of_length owed

end Counted

structure StreamInv (edge : Edge) (stream : EdgeStream) : Prop where
  served : Served edge (stream.counters.phase ≠ .created) stream.pin
  counted : Counted edge stream.counters

theorem StreamInv.step (inv : StreamInv edge stream) (orderly : stream.orderly edge move)
    (step : stream.step edge move = some next) : StreamInv edge next := by
  rcases inv with ⟨served, counted⟩
  cases move with
  | other move =>
    rcases Option.ite_none_right_eq_some.mp step with ⟨spares, stepped⟩
    rcases Option.map_eq_some_iff.mp stepped with ⟨pin, moved, rfl⟩
    exact ⟨served.other spares moved, counted⟩
  | proceed =>
    rcases Option.map_eq_some_iff.mp step with ⟨pin, moved, rfl⟩
    exact ⟨served.undisturbed (served.inv.proceed orderly nofun moved)
      (.proceed served.inv served.assigns moved), counted⟩
  | start =>
    rcases Option.ite_none_right_eq_some.mp step with ⟨created, stepped⟩
    rcases Option.map_eq_some_iff.mp stepped with ⟨pin, moved, rfl⟩
    rcases orderly with ⟨room, none, zero, still⟩
    rcases served.arm room moved with ⟨inv, assigns, holds, enabled⟩
    exact ⟨⟨inv, assigns, fun _ => holds trivial, fun _ => enabled trivial⟩,
      counted.start created none zero still⟩
  | transition =>
    rcases of_guard step with ⟨still, rfl⟩
    refine ⟨served.undisturbed (served.inv.event _) (.event _),
      counted.transition still ?_ orderly⟩
    exact fun polled fits => served.enabled polled _ fits
  | release =>
    rcases of_guard step with ⟨releasing, rfl⟩
    exact ⟨served, counted.release releasing orderly⟩
  | claim =>
    rcases of_guard step with ⟨⟨waits, some⟩, rfl⟩
    rcases served with ⟨inv, assigns, holds, enabled⟩
    simp only [waits, ne_eq, reduceCtorEq, not_false_eq_true, true_implies] at holds enabled
    exact ⟨⟨inv, assigns, fun _ => holds, fun _ => enabled⟩, counted.claim waits some⟩
  | yieldItem =>
    rcases of_guard step with ⟨claimed, rfl⟩
    rcases served with ⟨inv, assigns, holds, enabled⟩
    simp only [claimed, ne_eq, reduceCtorEq, not_false_eq_true, true_implies] at holds enabled
    exact ⟨⟨inv, assigns, fun _ => holds, fun _ => enabled⟩, counted.yieldItem claimed orderly⟩

/-- For every argument and every interleaving of transitions, other futures and the consumer,
the stream reports the matching transitions with their directions. -/
theorem edges_report_transitions {edge : Edge} {level : Bool} {stream : EdgeStream}
    (reached : (streamMachine edge level).Reaches (EdgeStream.orderly edge) stream) :
    stream.counters.Reports := by
  have inv : StreamInv edge stream := by
    refine reached.invariant (StreamInv edge) ?_ ⟨⟨Inv.initial, ?_, ?_, ?_⟩, ?_⟩
    · intro stream move next inv orderly step
      exact inv.step orderly step
    · exact .idle rfl
    · exact fun polled => absurd rfl polled
    · exact fun polled => absurd rfl polled
    · constructor <;> simp [streamMachine]
  exact inv.counted.reports

/-- Three transitions, of which two come before the first is drained. -/
theorem edges_report_transitions_any :
    ∃ stream, (streamMachine .any false).Reaches (EdgeStream.orderly .any) stream ∧
      stream.counters.yielded = [true, false] ∧ stream.counters.occurred = [true, false, true] ∧
      stream.counters.Reports := by
  refine exists_of_exec
    [.other (.waitForEdge .rising), .proceed, .proceed, .other (.moveConstruct 0), .start,
      .transition, .release, .claim, .transition, .release, .other (.moveAssign 0 1), .proceed,
      .yieldItem, .other (.destroy 0), .proceed, .transition, .claim, .yieldItem]
    (by decide +kernel) fun reached => ⟨?_, ?_, edges_report_transitions reached⟩
  all_goals decide +kernel

/-- A stream of rising edges that has two of them to drain reports the first as falling. -/
theorem two_rising_edges_report_falling :
    ∃ stream, (streamMachine .rising false).Reaches anyMove stream ∧
      stream.counters.occurred = [true, true] ∧ stream.counters.yielded = [false] :=
  exists_of_exec
    [.start, .transition, .release, .transition, .transition, .release, .claim, .yieldItem]
    (by decide +kernel) fun _ => by decide +kernel

end CoroRuntime.Gpio
