import CoroRuntime.Foundation.Counting
import CoroRuntime.Foundation.Execution

/-! # GPIO triggers

`GpioPin` of `src/pico/hal/gpio.cpp` with its futures and streams. One thread uses the pin, and
the interrupt handler runs between any two of its steps. A critical section of `m_mask_lock`,
during which interrupts are off, is one step, and so is the register write that follows it.
-/

namespace CoroRuntime.Gpio

open Foundation

inductive Trigger
  | levelLow
  | levelHigh
  | edgeFall
  | edgeRise
  deriving DecidableEq, Repr

def Trigger.all : List Trigger := [.levelLow, .levelHigh, .edgeFall, .edgeRise]

theorem Trigger.mem_all (trigger : Trigger) : trigger ∈ Trigger.all := by
  cases trigger <;> simp [Trigger.all]

abbrev Mask := Trigger → Bool

def Trigger.isLevel : Trigger → Bool
  | .levelLow | .levelHigh => true
  | .edgeFall | .edgeRise => false

inductive Edge
  | rising
  | falling
  | any
  deriving DecidableEq, Repr

def edgeIrqMask : Edge → Mask
  | .rising => (· = .edgeRise)
  | .falling => (· = .edgeFall)
  | .any => (!·.isLevel)

theorem isLevel_of_edgeIrqMask (asked : edgeIrqMask edge trigger) : trigger.isLevel = false := by
  revert asked
  cases edge <;> cases trigger <;> decide

/-- A `GpioEdgeFuture`, or the frame of an `edges()` stream. -/
structure Holder where
  /-- the bits that it holds, none once it has been moved from or destroyed -/
  mask : Mask
  stream : Bool
  /-- The epoch that the future waits to see passed. One that is ready from the start has none. -/
  baseline : Option Nat
  alive : Bool

def Holder.resolved (holder : Holder) (epoch : Nat) : Bool :=
  !holder.stream && holder.baseline != some epoch

inductive Call
  | none
  /-- before the critical section of `acquire_mask()`, with the epoch that was read -/
  | acquiring (mask : Mask) (baseline : Option Nat)
  /-- before the register write of `acquire_mask()` -/
  | enabling (toEnable : Mask)
  /-- before the register write of `release_mask()`; a move assignment then takes over what the
  second future holds -/
  | disabling (toDisable : Mask) (assign : Option (Nat × Nat))

structure GpioPin where
  /-- a `uint8_t` each -/
  maskRefcount : Trigger → Nat := fun _ => 0
  enabled : Mask := fun _ => false
  /-- of `m_edge_event` -/
  epoch : Nat := 0
  /-- in the order in which they were made -/
  holders : List Holder := []
  call : Call := .none

inductive Move
  | waitForEdge (edge : Edge)
  /-- `wait_for_level(level)`, where `read()` returns `current` -/
  | waitForLevel (level current : Bool)
  /-- the first resume of a stream -/
  | edges (edge : Edge)
  | destroy (index : Nat)
  | moveConstruct (index : Nat)
  | moveAssign (target source : Nat)
  | proceed
  /-- Something happens at the pin. -/
  | event (events : Mask)

namespace GpioPin

variable (pin : GpioPin)

def notifyIrq (eventMask : Mask) : GpioPin :=
  { pin with
    enabled := fun trigger => pin.enabled trigger && !(eventMask trigger && trigger.isLevel)
    epoch := pin.epoch + 1 }

def event (events : Mask) : GpioPin :=
  let eventMask := fun trigger => events trigger && pin.enabled trigger
  if Trigger.all.any eventMask then pin.notifyIrq eventMask else pin

/-- The critical section of `acquire_mask()`. The new holder is a future or a stream. -/
def acquireMask (mask : Mask) (baseline : Option Nat) : GpioPin :=
  { pin with
    maskRefcount := fun trigger =>
      if mask trigger then (pin.maskRefcount trigger + 1) % 256 else pin.maskRefcount trigger
    holders := pin.holders ++ [⟨mask, baseline.isNone, baseline, true⟩]
    call := .enabling fun trigger => mask trigger && pin.maskRefcount trigger == 0 }

/-- The critical section of `release_mask()`: the holder gives up its bits. -/
def releaseMask (index : Nat) (holder : Holder) (alive : Bool)
    (assign : Option (Nat × Nat)) : GpioPin :=
  let refcount := fun trigger =>
    if holder.mask trigger then (pin.maskRefcount trigger + 255) % 256
    else pin.maskRefcount trigger
  { pin with
    maskRefcount := refcount
    holders := pin.holders.set index { holder with mask := fun _ => false, alive }
    call := .disabling (fun trigger => holder.mask trigger && refcount trigger == 0) assign }

def moveConstruct (source : Nat) (holder : Holder) : GpioPin :=
  { pin with
    holders := pin.holders.set source { holder with mask := fun _ => false } ++ [holder] }

/-- The rest of the move assignment, after `release_mask()` -/
def takeOver (holders : List Holder) : Option (Nat × Nat) → List Holder
  | none => holders
  | some (target, source) =>
    match holders[source]? with
    | some holder => (holders.set source { holder with mask := fun _ => false }).set target holder
    | none => holders

def proceed : Option GpioPin :=
  match pin.call with
  | .none => none
  | .acquiring mask baseline => some (pin.acquireMask mask baseline)
  | .enabling toEnable =>
    some { pin with
      enabled := fun trigger => pin.enabled trigger || toEnable trigger
      call := .none }
  | .disabling toDisable assign =>
    some { pin with
      enabled := fun trigger => pin.enabled trigger && !toDisable trigger
      holders := takeOver pin.holders assign
      call := .none }

def future (index : Nat) : Option Holder :=
  pin.holders[index]?.filter fun holder => holder.alive && !holder.stream

def start : Move → Option GpioPin
  | .waitForEdge edge =>
    some { pin with call := .acquiring (edgeIrqMask edge) (some pin.epoch) }
  | .waitForLevel level current =>
    if current = level then
      some { pin with holders := pin.holders ++ [⟨fun _ => false, false, none, true⟩] }
    else
      let awaited := if level then Trigger.levelHigh else .levelLow
      some { pin with call := .acquiring (· = awaited) (some pin.epoch) }
  | .edges edge => some { pin with call := .acquiring (edgeIrqMask edge) none }
  | .destroy index =>
    (pin.holders[index]?.filter (·.alive)).map fun holder =>
      pin.releaseMask index holder false none
  | .moveConstruct index => (pin.future index).map (pin.moveConstruct index)
  | .moveAssign target source =>
    if target ≠ source ∧ (pin.future source).isSome then
      (pin.future target).map fun holder =>
        pin.releaseMask target holder true (some (target, source))
    else none
  | .proceed | .event _ => none

def step : Move → Option GpioPin
  | .event events => some (pin.event events)
  | .proceed => pin.proceed
  | move => match pin.call with
      | .none => pin.start move
      | _ => none

end GpioPin

def machine : Machine GpioPin Move where
  initial := {}
  step := GpioPin.step

/-- `acquire_mask()` adds less than the 256th holder of a bit, and no holder of a level bit that
`notify_irq()` has switched off while it is held. -/
def ArmsInTime (pin : GpioPin) : Call → Prop
  | .acquiring mask _ => ∀ trigger ∈ Trigger.all, mask trigger →
      pin.maskRefcount trigger < 255 ∧
        (trigger.isLevel → pin.maskRefcount trigger ≠ 0 → pin.enabled trigger)
  | .none | .enabling _ | .disabling .. => True

instance (pin : GpioPin) (call : Call) : Decidable (ArmsInTime pin call) :=
  match call with
  | .acquiring .. => inferInstanceAs (Decidable (∀ trigger ∈ Trigger.all, _ → _))
  | .none | .enabling _ | .disabling .. => isTrue trivial

def HasRoom (pin : GpioPin) : Call → Prop
  | .acquiring mask _ => ∀ trigger ∈ Trigger.all, mask trigger → pin.maskRefcount trigger < 255
  | .none | .enabling _ | .disabling .. => True

theorem ArmsInTime.hasRoom (inTime : ArmsInTime pin call) : HasRoom pin call := by
  cases call with
  | acquiring => exact fun trigger known asked => (inTime trigger known asked).1
  | none | enabling | disabling => trivial

def armsInTime (pin : GpioPin) : Move → Prop
  | .proceed => ArmsInTime pin pin.call
  | _ => True

instance (pin : GpioPin) (move : Move) : Decidable (armsInTime pin move) :=
  match move with
  | .proceed => inferInstanceAs (Decidable (ArmsInTime pin pin.call))
  | .waitForEdge _ | .waitForLevel .. | .edges _ | .destroy _ | .moveConstruct _
  | .moveAssign .. | .event _ => isTrue trivial

def Call.outside : Call → Bool
  | .none | .acquiring .. => true
  | .enabling _ | .disabling .. => false

structure Armed (pin : GpioPin) : Prop where
  counted : ∀ trigger, pin.maskRefcount trigger = pin.holders.countP (·.mask trigger)
  enabled : ∀ holder ∈ pin.holders, holder.resolved pin.epoch = false →
    ∀ trigger, holder.mask trigger → pin.enabled trigger
  disabled : ∀ trigger, (∀ holder ∈ pin.holders, holder.mask trigger = false) →
    pin.enabled trigger = false
  /-- An event resolves the futures that wait for it. -/
  resolves : ∀ holder ∈ pin.holders, holder.stream = false →
    ∀ trigger, holder.mask trigger → ∀ events : Mask, events trigger →
      holder.resolved (pin.event events).epoch

/-! ## Holders -/

section Holders

variable {holder old : Holder} {epoch after : Nat}

/-- A holder has no baseline that is still to come, and a stream holds no level bit. -/
structure Holder.Sound (holder : Holder) (epoch : Nat) : Prop where
  past : ∀ baseline, holder.baseline = some baseline → baseline ≤ epoch
  edges : holder.stream → ∀ trigger, holder.mask trigger → trigger.isLevel = false

theorem Holder.Sound.later (sound : holder.Sound epoch) (passes : epoch ≤ after) :
    holder.Sound after :=
  ⟨fun baseline is => Nat.le_trans (sound.past baseline is) passes, sound.edges⟩

theorem Holder.Sound.resolved (sound : holder.Sound epoch) (future : holder.stream = false)
    (passes : epoch < after) : holder.resolved after := by
  cases is : holder.baseline with
  | none => simp [Holder.resolved, future, is]
  | some baseline =>
    have past := sound.past baseline is
    simp only [Holder.resolved, future, is, Bool.not_false, Bool.true_and, bne_iff_ne, ne_eq,
      Option.some.injEq]
    omega

/-- `holder` is `old`, with no bit that `old` does not have. -/
structure Holder.Within (holder old : Holder) : Prop where
  same : (holder.stream, holder.baseline) = (old.stream, old.baseline)
  mask : ∀ trigger, holder.mask trigger → old.mask trigger

theorem Holder.Within.resolved (within : holder.Within old) :
    holder.resolved epoch = old.resolved epoch := by
  have same := within.same
  simp only [Prod.mk.injEq] at same
  simp [Holder.resolved, same]

theorem Holder.Within.sound (within : holder.Within old) (sound : old.Sound epoch) :
    holder.Sound epoch := by
  have same := within.same
  simp only [Prod.mk.injEq] at same
  constructor
  · rw [same.2]
    exact sound.past
  · rw [same.1]
    exact fun stream trigger holds => sound.edges stream trigger (within.mask trigger holds)

theorem Holder.Within.refl (holder : Holder) : holder.Within holder :=
  ⟨rfl, fun _ holds => holds⟩

theorem Holder.Within.disarmed (holder : Holder) (alive : Bool) :
    { holder with mask := fun _ => false, alive }.Within holder :=
  ⟨rfl, by simp⟩

def Remain (after before : List Holder) : Prop :=
  ∀ holder ∈ after, ∃ old ∈ before, holder.Within old

theorem Remain.set (index : Nat) (known : ∃ old ∈ holders, holder.Within old) :
    Remain (holders.set index holder) holders := by
  intro other member
  rcases List.mem_or_eq_of_mem_set member with before | rfl
  · exact ⟨other, before, .refl other⟩
  · exact known

end Holders

/-! ## Invariants -/

namespace Call

def enables : Call → Mask
  | .enabling toEnable => toEnable
  | _ => fun _ => false

def disables : Call → Mask
  | .disabling toDisable _ => toDisable
  | _ => fun _ => false

def Suits (epoch : Nat) (holders : List Holder) : Call → Prop
  | .acquiring mask baseline => Holder.Sound ⟨mask, baseline.isNone, baseline, true⟩ epoch
  | .disabling _ (some (target, source)) => target ≠ source ∧
      ∃ holder, holders[target]? = some holder ∧ ∀ trigger, holder.mask trigger = false
  | _ => True

end Call

/-- The level bits are only armed in time if `levels`. -/
structure Inv (levels : Prop) (pin : GpioPin) : Prop where
  counted : ∀ trigger, pin.maskRefcount trigger = pin.holders.countP (·.mask trigger)
  bounded : ∀ trigger, pin.maskRefcount trigger < 256
  sound : ∀ holder ∈ pin.holders, holder.Sound pin.epoch
  /-- A level bit may be off once its holders are resolved, an edge bit is always on. -/
  enabled : ∀ holder ∈ pin.holders, ∀ trigger, holder.mask trigger →
    (levels ∧ holder.resolved pin.epoch = false) ∨ trigger.isLevel = false →
    pin.enabled trigger ∨ pin.call.enables trigger
  disabled : ∀ trigger, pin.maskRefcount trigger = 0 →
    pin.enabled trigger → pin.call.disables trigger
  enables : ∀ trigger, pin.call.enables trigger → pin.maskRefcount trigger ≠ 0
  disables : ∀ trigger, pin.call.disables trigger → pin.maskRefcount trigger = 0
  suits : pin.call.Suits pin.epoch pin.holders

namespace Inv

variable {levels : Prop} {pin next : GpioPin}

variable (inv : Inv levels pin)

include inv

theorem refcount_ne_zero (member : holder ∈ pin.holders) (holds : holder.mask trigger) :
    pin.maskRefcount trigger ≠ 0 := by
  have counts : 0 < pin.holders.countP (·.mask trigger) :=
    List.countP_pos_iff.mpr ⟨holder, member, holds⟩
  have counted := inv.counted trigger
  omega

theorem rearrange (outside : pin.call = .none) (remain : Remain holders pin.holders)
    (counted : ∀ trigger,
      holders.countP (·.mask trigger) = pin.holders.countP (·.mask trigger)) :
    Inv levels { pin with holders } := by
  refine ⟨fun trigger => (inv.counted trigger).trans (counted trigger).symm, inv.bounded, ?_, ?_,
    inv.disabled, inv.enables, inv.disables, ?_⟩
  · intro holder member
    rcases remain holder member with ⟨old, known, within⟩
    exact within.sound (inv.sound old known)
  · intro holder member trigger holds
    rcases remain holder member with ⟨old, known, within⟩
    rw [within.resolved]
    exact inv.enabled old known trigger (within.mask trigger holds)
  · rw [outside]
    trivial

theorem event (events : Mask) : Inv levels (pin.event events) := by
  unfold GpioPin.event
  simp only
  split
  · refine ⟨inv.counted, inv.bounded, fun holder member => (inv.sound holder member).later
      (Nat.le_succ _), ?_, ?_, inv.enables, inv.disables, ?_⟩
    · intro holder member trigger holds cause
      have edge : trigger.isLevel = false := by
        rcases cause with ⟨-, unresolved⟩ | edge
        · have stream : holder.stream := by
            by_contra future
            have resolved := (inv.sound holder member).resolved (Bool.eq_false_iff.mpr future)
              (Nat.lt_succ_self _)
            exact absurd unresolved (by simp [GpioPin.notifyIrq, resolved])
          exact (inv.sound holder member).edges stream trigger holds
        · exact edge
      refine (inv.enabled holder member trigger holds (.inr edge)).imp_left fun on => ?_
      simp [GpioPin.notifyIrq, on, edge]
    · intro trigger unheld on
      simp only [GpioPin.notifyIrq, Bool.and_eq_true] at on
      exact inv.disabled trigger unheld on.1
    · have suits := inv.suits
      unfold Call.Suits at suits ⊢
      simp only [GpioPin.notifyIrq]
      split
      · rename_i is
        simp only [is] at suits
        exact suits.later (Nat.le_succ _)
      · rename_i is
        simp only [is] at suits
        exact suits
      · trivial
  · exact inv

/-! ### `acquire_mask()` -/

theorem acquireMask (calls : pin.call = .acquiring mask baseline) (room : HasRoom pin pin.call)
    (inTime : levels → ArmsInTime pin pin.call) : Inv levels (pin.acquireMask mask baseline) := by
  simp only [HasRoom, ArmsInTime, calls, Trigger.mem_all, true_implies] at room inTime
  have suits := inv.suits
  simp only [calls, Call.Suits] at suits
  have idle : pin.call.enables = fun _ => false := by rw [calls]; rfl
  have still : pin.call.disables = fun _ => false := by rw [calls]; rfl
  have refcount : ∀ trigger, (pin.acquireMask mask baseline).maskRefcount trigger =
      pin.maskRefcount trigger + (mask trigger).toNat := by
    intro trigger
    simp only [GpioPin.acquireMask]
    split
    · rename_i asked
      have below := room trigger asked
      rw [asked, Nat.mod_eq_of_lt (by omega)]
      rfl
    · rename_i unasked
      simp [Bool.eq_false_iff.mpr unasked]
  constructor
  case counted =>
    intro trigger
    rw [refcount, inv.counted]
    cases asked : mask trigger <;> simp [GpioPin.acquireMask, asked]
  case bounded =>
    intro trigger
    have below := inv.bounded trigger
    rw [refcount]
    cases asked : mask trigger with
    | false => simpa using below
    | true =>
      have more := room trigger asked
      simp only [Bool.toNat_true]
      omega
  case sound =>
    intro holder member
    rcases List.mem_append.mp member with old | new
    · exact inv.sound holder old
    · rw [List.mem_singleton] at new
      exact new ▸ suits
  case enabled =>
    intro holder member trigger holds cause
    rcases List.mem_append.mp member with old | new
    · have on := inv.enabled holder old trigger holds cause
      rw [idle] at on
      exact .inl (on.resolve_right Bool.false_ne_true)
    · rw [List.mem_singleton] at new
      subst new
      by_cases unheld : pin.maskRefcount trigger = 0
      · exact .inr (by simp_all [GpioPin.acquireMask, Call.enables])
      · left
        cases level : trigger.isLevel with
        | true =>
          rcases cause with ⟨levels, -⟩ | edge
          · exact (inTime levels trigger holds).2 level unheld
          · cases level.symm.trans edge
        | false =>
          rw [inv.counted] at unheld
          rcases List.countP_pos_iff.mp (Nat.pos_of_ne_zero unheld) with ⟨other, known, has⟩
          have on := inv.enabled other known trigger has (.inr level)
          rw [idle] at on
          exact on.resolve_right Bool.false_ne_true
  case disabled =>
    intro trigger unheld on
    rw [refcount] at unheld
    have off := inv.disabled trigger (by omega) on
    rw [still] at off
    cases off
  case enables =>
    intro trigger asked
    simp only [GpioPin.acquireMask, Call.enables, Bool.and_eq_true] at asked
    rw [refcount, asked.1]
    simp
  case disables =>
    intro trigger off
    cases off
  case suits => trivial

/-! ### `release_mask()` -/

section

variable (outside : pin.call = .none)

include outside

theorem releaseMask (found : pin.holders[index]? = some holder) (alive : Bool)
    (apart : ∀ target source, assign = some (target, source) →
      target = index ∧ target ≠ source) :
    Inv levels (pin.releaseMask index holder alive assign) := by
  have known := List.mem_of_getElem? found
  have idle : pin.call.enables = fun _ => false := by rw [outside]; rfl
  have still : pin.call.disables = fun _ => false := by rw [outside]; rfl
  have refcount : ∀ trigger,
      (pin.releaseMask index holder alive assign).maskRefcount trigger +
        (holder.mask trigger).toNat = pin.maskRefcount trigger := by
    intro trigger
    simp only [GpioPin.releaseMask]
    split
    · rename_i holds
      have held := inv.refcount_ne_zero known holds
      have below := inv.bounded trigger
      rw [holds, Bool.toNat_true]
      omega
    · rename_i lacks
      simp [Bool.eq_false_iff.mpr lacks]
  have remain : Remain (pin.releaseMask index holder alive assign).holders pin.holders :=
    .set index ⟨holder, known, .disarmed holder alive⟩
  constructor
  case counted =>
    intro trigger
    have counted := countP_set found { holder with mask := fun _ => false, alive } (·.mask trigger)
    have before := inv.counted trigger
    have after := refcount trigger
    simp only [Bool.toNat_false] at counted
    simp only [GpioPin.releaseMask] at after ⊢
    omega
  case bounded =>
    intro trigger
    have below := inv.bounded trigger
    have after := refcount trigger
    omega
  case sound =>
    intro other member
    rcases remain other member with ⟨old, known, within⟩
    exact within.sound (inv.sound old known)
  case enabled =>
    intro other member trigger holds
    rcases remain other member with ⟨old, known, within⟩
    rw [within.resolved]
    intro cause
    have on := inv.enabled old known trigger (within.mask trigger holds) cause
    rw [idle] at on
    exact .inl (on.resolve_right Bool.false_ne_true)
  case disabled =>
    intro trigger unheld on
    by_cases held : pin.maskRefcount trigger = 0
    · have off := inv.disabled trigger held on
      rw [still] at off
      cases off
    · have after := refcount trigger
      have had : holder.mask trigger := by
        by_contra lacks
        simp only [Bool.eq_false_iff.mpr lacks, Bool.toNat_false] at after
        omega
      have zero : (pin.maskRefcount trigger + 255) % 256 = 0 := by
        simpa [GpioPin.releaseMask, had] using unheld
      simp [GpioPin.releaseMask, Call.disables, had, zero]
  case enables =>
    intro trigger on
    cases on
  case disables =>
    intro trigger off
    simp only [GpioPin.releaseMask, Call.disables, Bool.and_eq_true, beq_iff_eq] at off
    exact off.2
  case suits =>
    cases assign with
    | none => trivial
    | some pair =>
      rcases pair with ⟨target, source⟩
      rcases apart target source rfl with ⟨rfl, different⟩
      have inside := (List.getElem?_eq_some_iff.mp found).1
      exact ⟨different, _, List.getElem?_set_self inside, fun _ => rfl⟩

/-! ### Moves of the thread -/

theorem moveConstruct (found : pin.holders[source]? = some holder) :
    Inv levels (pin.moveConstruct source holder) := by
  have known := List.mem_of_getElem? found
  refine inv.rearrange outside ?_ fun trigger => ?_
  · intro other member
    rcases List.mem_append.mp member with before | new
    · exact Remain.set source ⟨holder, known, .disarmed holder holder.alive⟩ other before
    · rw [List.mem_singleton] at new
      exact ⟨holder, known, new ▸ .refl holder⟩
  · have counted := countP_set found { holder with mask := fun _ => false } (·.mask trigger)
    rw [List.countP_append, List.countP_singleton]
    cases holds : holder.mask trigger <;> simp_all

omit outside in
theorem written {enabled : Mask}
    (is : ∀ trigger, enabled trigger =
      ((pin.enabled trigger || pin.call.enables trigger) && !pin.call.disables trigger)) :
    Inv levels { pin with enabled, call := .none } := by
  refine ⟨inv.counted, inv.bounded, inv.sound, ?_, ?_, by simp [Call.enables],
    by simp [Call.disables], trivial⟩
  · intro holder member trigger holds cause
    have on := inv.enabled holder member trigger holds cause
    have kept : pin.call.disables trigger = false := by
      by_contra off
      exact inv.refcount_ne_zero member holds (inv.disables trigger (by simpa using off))
    left
    simpa [is, kept] using on
  · intro trigger unheld on
    simp only [is, Bool.and_eq_true, Bool.or_eq_true, Bool.not_eq_true'] at on
    rcases on.1 with before | now
    · exact absurd (inv.disabled trigger unheld before) (by simp [on.2])
    · exact absurd unheld (inv.enables trigger now)

theorem takeOver (suits : (Call.disabling (fun _ => false) assign).Suits pin.epoch pin.holders) :
    Inv levels { pin with holders := GpioPin.takeOver pin.holders assign } := by
  cases assign with
  | none => exact inv
  | some pair =>
    rcases pair with ⟨target, source⟩
    rcases suits with ⟨apart, empty, found, lacks⟩
    simp only [GpioPin.takeOver]
    split
    · rename_i holder held
      have known := List.mem_of_getElem? held
      have middle : (pin.holders.set source { holder with mask := fun _ => false })[target]? =
          some empty := by
        rw [List.getElem?_set_ne (Ne.symm apart)]
        exact found
      refine inv.rearrange outside ?_ fun trigger => ?_
      · intro other member
        rcases List.mem_or_eq_of_mem_set member with before | rfl
        · exact Remain.set source ⟨holder, known, .disarmed holder holder.alive⟩ other before
        · exact ⟨other, known, .refl other⟩
      · have first := countP_set held { holder with mask := fun _ => false } (·.mask trigger)
        have second := countP_set middle holder (·.mask trigger)
        simp only [lacks trigger, Bool.toNat_false] at first second
        omega
    · exact inv

omit outside in
theorem proceed (room : HasRoom pin pin.call) (inTime : levels → ArmsInTime pin pin.call)
    (step : pin.proceed = some next) : Inv levels next := by
  unfold GpioPin.proceed at step
  split at step <;> cases step
  · exact inv.acquireMask ‹_› room inTime
  · rename_i is
    exact inv.written fun trigger => by simp [is, Call.enables, Call.disables]
  · rename_i is
    have suits := inv.suits
    rw [is] at suits
    have wrote := inv.written (fun trigger => rfl)
    simp only [is, Call.enables, Call.disables, Bool.or_false] at wrote
    refine wrote.takeOver rfl ?_
    unfold Call.Suits at suits ⊢
    split at suits <;> simp_all

theorem call (suits : Holder.Sound ⟨mask, baseline.isNone, baseline, true⟩ pin.epoch) :
    Inv levels { pin with call := .acquiring mask baseline } := by
  refine ⟨inv.counted, inv.bounded, inv.sound, ?_, ?_, by simp [Call.enables],
    by simp [Call.disables], suits⟩
  · simpa [outside, Call.enables] using inv.enabled
  · simpa [outside, Call.disables] using inv.disabled

theorem ready :
    Inv levels { pin with holders := pin.holders ++ [⟨fun _ => false, false, none, true⟩] } := by
  refine ⟨by simpa using inv.counted, inv.bounded, ?_, ?_, inv.disabled, inv.enables,
    inv.disables, by rw [outside]; trivial⟩
  · intro holder member
    rcases List.mem_append.mp member with old | new
    · exact inv.sound holder old
    · rw [List.mem_singleton] at new
      subst new
      exact ⟨by simp, by simp⟩
  · intro holder member trigger holds
    rcases List.mem_append.mp member with old | new
    · exact inv.enabled holder old trigger holds
    · rw [List.mem_singleton] at new
      subst new
      cases holds

omit inv outside in
theorem found_of_future (is : pin.future index = some holder) : pin.holders[index]? = some holder :=
  (Option.filter_eq_some_iff.mp is).1

theorem start (step : pin.start move = some next) : Inv levels next := by
  cases move with
  | waitForEdge edge =>
    cases step
    exact inv.call outside ⟨by simp, fun stream => by simp at stream⟩
  | waitForLevel level current =>
    simp only [GpioPin.start] at step
    split at step
    · cases step
      exact inv.ready outside
    · cases step
      exact inv.call outside ⟨by simp, fun stream => by simp at stream⟩
  | edges edge =>
    cases step
    exact inv.call outside ⟨by simp, fun _ _ => isLevel_of_edgeIrqMask⟩
  | destroy index =>
    rcases Option.map_eq_some_iff.mp step with ⟨holder, found, rfl⟩
    exact inv.releaseMask outside (Option.filter_eq_some_iff.mp found).1 false (by simp)
  | moveConstruct index =>
    rcases Option.map_eq_some_iff.mp step with ⟨holder, found, rfl⟩
    exact inv.moveConstruct outside (found_of_future found)
  | moveAssign target source =>
    rcases Option.ite_none_right_eq_some.mp step with ⟨⟨apart, _⟩, step⟩
    rcases Option.map_eq_some_iff.mp step with ⟨holder, found, rfl⟩
    refine inv.releaseMask outside (found_of_future found) true ?_
    rintro _ _ ⟨⟩
    exact ⟨rfl, apart⟩
  | proceed | event => cases step

end

theorem step (admitted : armsInTime pin move) (step : pin.step move = some next) :
    Inv levels next := by
  unfold GpioPin.step at step
  split at step
  · cases step
    exact inv.event _
  · exact inv.proceed (ArmsInTime.hasRoom admitted) (fun _ => admitted) step
  · split at step
    · exact inv.start ‹_› step
    · cases step

omit inv in
theorem initial : Inv levels {} := by
  constructor <;> simp [Call.enables, Call.disables, Call.Suits]

omit inv in
theorem armed (inv : Inv True pin) (outside : pin.call.outside) : Armed pin := by
  have idle : pin.call.enables = fun _ => false := by
    cases is : pin.call <;> simp_all [Call.outside, Call.enables]
  have still : pin.call.disables = fun _ => false := by
    cases is : pin.call <;> simp_all [Call.outside, Call.disables]
  have enabled : ∀ holder ∈ pin.holders, holder.resolved pin.epoch = false →
      ∀ trigger, holder.mask trigger → pin.enabled trigger := by
    intro holder member unresolved trigger holds
    have on := inv.enabled holder member trigger holds (.inl ⟨trivial, unresolved⟩)
    rw [idle] at on
    exact on.resolve_right Bool.false_ne_true
  refine ⟨inv.counted, enabled, ?_, ?_⟩
  · intro trigger unheld
    by_contra on
    have none : pin.maskRefcount trigger = 0 := by
      rw [inv.counted, List.countP_eq_zero]
      simpa using unheld
    have off := inv.disabled trigger none (by simpa using on)
    rw [still] at off
    cases off
  · intro holder member future trigger holds events occurs
    have sound := inv.sound holder member
    cases resolved : holder.resolved pin.epoch with
    | true =>
      unfold GpioPin.event
      simp only
      split
      · exact sound.resolved future (Nat.lt_succ_self _)
      · exact resolved
    | false =>
      have on := enabled holder member resolved trigger holds
      have fires : Trigger.all.any fun trigger => events trigger && pin.enabled trigger :=
        List.any_eq_true.mpr ⟨trigger, trigger.mem_all, by simp [occurs, on]⟩
      simp only [GpioPin.event, fires, if_true]
      exact sound.resolved future (Nat.lt_succ_self _)

end Inv

theorem waits_stay_armed {pin : GpioPin} (reached : machine.Reaches armsInTime pin)
    (outside : pin.call.outside) : Armed pin := by
  have inv : Inv True pin := by
    refine reached.invariant (Inv True) ?_ Inv.initial
    intro pin move next inv admitted step
    exact inv.step admitted step
  exact inv.armed outside

/-- Two waits for a rising edge and one for a high level, one of them assigned to. -/
theorem waits_stay_armed_assigned :
    ∃ pin, machine.Reaches armsInTime pin ∧ pin.maskRefcount .edgeRise = 1 ∧
      pin.enabled .levelHigh ∧ Armed pin := by
  refine exists_of_exec
    [.waitForEdge .rising, .proceed, .proceed, .waitForEdge .any, .proceed, .proceed,
      .moveAssign 0 1, .proceed, .waitForLevel true false, .proceed, .proceed]
    (by decide +kernel) fun reached => ⟨?_, ?_, waits_stay_armed reached ?_⟩
  all_goals decide +kernel

/-- The level interrupt switches its bit off. A wait that begins before the resolved one is
destroyed finds the bit held and leaves it off. -/
theorem resolved_holder_leaves_bit_off :
    ∃ pin, machine.Reaches anyMove pin ∧ pin.call.outside ∧ ¬Armed pin := by
  refine exists_of_exec
    [.waitForLevel true false, .proceed, .proceed, .event (· = .levelHigh),
      .waitForLevel true false, .proceed, .proceed]
    (by decide +kernel) fun _ => ⟨by decide +kernel, fun armed => ?_⟩
  have on := armed.enabled ⟨(· = .levelHigh), false, some 1, true⟩ (.tail _ (.head _)) rfl
    .levelHigh rfl
  exact absurd on (by decide +kernel)

end CoroRuntime.Gpio
