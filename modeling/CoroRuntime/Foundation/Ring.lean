import Mathlib.Data.Multiset.Range
import Mathlib.Algebra.Order.Group.Multiset
import Mathlib.Data.BitVec

/-! # Rings addressed by wrapping indices

A position counts everything that ever went through a ring. Programs store only
its low bits, the index, and a ring of `capacity` slots stores what was put at a
position in the slot the position has modulo `capacity`.
-/

namespace CoroRuntime.Foundation

/-! ## Wrapping indices -/

section Index

variable {width : Nat}

theorem ofNat_sub_ofNat (ordered : low ≤ high) :
    BitVec.ofNat width high - BitVec.ofNat width low = BitVec.ofNat width (high - low) := by
  have split : BitVec.ofNat width high =
      BitVec.ofNat width (high - low) + BitVec.ofNat width low := by
    rw [← BitVec.ofNat_add, Nat.sub_add_cancel ordered]
  rw [split, BitVec.add_sub_cancel]

theorem toNat_ofNat_sub_ofNat (ordered : low ≤ high) (near : high - low < 2 ^ width) :
    (BitVec.ofNat width high - BitVec.ofNat width low).toNat = high - low := by
  rw [ofNat_sub_ofNat ordered, BitVec.toNat_ofNat, Nat.mod_eq_of_lt near]

/-- Positions less than a full turn of the index apart are told apart by it. -/
theorem eq_of_ofNat_eq (ordered : low ≤ high) (near : high < low + 2 ^ width)
    (equal : BitVec.ofNat width low = BitVec.ofNat width high) : low = high := by
  have distance : (BitVec.ofNat width high - BitVec.ofNat width low).toNat = high - low :=
    toNat_ofNat_sub_ofNat ordered (by omega)
  rw [equal, BitVec.sub_self, BitVec.toNat_zero] at distance
  omega

end Index

/-! ## Slots and windows -/

section Window

variable {capacity : Nat} [NeZero capacity]

def slot (capacity : Nat) [NeZero capacity] (position : Nat) : Fin capacity :=
  Fin.ofNat capacity position

theorem slot_add_capacity (position : Nat) :
    slot capacity (position + capacity) = slot capacity position := by
  apply Fin.ext
  simp [slot]

theorem slot_ne (ordered : low < high) (near : high < low + capacity) :
    slot capacity low ≠ slot capacity high := by
  intro equal
  have congruent : low % capacity = high % capacity := by
    simpa [slot] using congrArg Fin.val equal
  have divides : capacity ∣ high - low := (Nat.modEq_iff_dvd' ordered.le).mp congruent
  have := Nat.le_of_dvd (by omega) divides
  omega

/-- What the slots of `length` consecutive positions hold. -/
def window (buffer : Fin capacity → α) (start length : Nat) : Multiset α :=
  (Multiset.range length).map fun offset => buffer (slot capacity (start + offset))

variable {buffer other : Fin capacity → α} {start length : Nat}

@[simp] theorem window_zero : window buffer start 0 = 0 :=
  rfl

theorem window_succ :
    window buffer start (length + 1) =
      window buffer start length + {buffer (slot capacity (start + length))} := by
  rw [window, Multiset.range_succ, Multiset.map_cons, ← Multiset.singleton_add, add_comm]
  rfl

theorem window_append (first second : Nat) :
    window buffer start (first + second) =
      window buffer start first + window buffer (start + first) second := by
  induction second with
  | zero => simp
  | succ second induction =>
    rw [← Nat.add_assoc, window_succ, induction, window_succ, add_assoc, Nat.add_assoc]

theorem window_one : window buffer start 1 = {buffer (slot capacity start)} := by
  simp [window]

/-- The first position of a window, apart from the others. -/
theorem window_front (positive : 0 < length) :
    window buffer start length =
      {buffer (slot capacity start)} + window buffer (start + 1) (length - 1) := by
  rw [← window_one, ← window_append]
  congr 1
  omega

theorem window_add_capacity :
    window buffer (start + capacity) length = window buffer start length := by
  unfold window
  congr 1
  funext offset
  rw [Nat.add_right_comm, slot_add_capacity]

theorem window_congr (agree : ∀ position, start ≤ position → position < start + length →
      buffer (slot capacity position) = other (slot capacity position)) :
    window buffer start length = window other start length := by
  apply Multiset.map_congr rfl
  intro offset inside
  rw [Multiset.mem_range] at inside
  exact agree (start + offset) (by omega) (by omega)

/-- A write behind a window, and less than a turn from its start, leaves it alone. -/
theorem window_update (behind : start + length ≤ position) (near : position < start + capacity) :
    window (Function.update buffer (slot capacity position) value) start length =
      window buffer start length := by
  apply window_congr
  intro read atLeast below
  exact Function.update_of_ne (slot_ne (by omega) (by omega)) _ _

end Window

end CoroRuntime.Foundation
