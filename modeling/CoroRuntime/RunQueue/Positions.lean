import CoroRuntime.RunQueue.LocalRunQueue

/-! # Rings by position

The words of a ring, read as the positions they are the low bits of, and what the
stores and exchanges of the run queue do to the positions.
-/

namespace CoroRuntime.RunQueue

open Foundation

def index (position : Nat) : Index :=
  BitVec.ofNat 32 position

def headAt (steal real : Nat) : BitVec 64 :=
  pack (index steal) (index real)

theorem setWidth_and_low (n : BitVec 64) : (n &&& 0xFFFFFFFF).setWidth 32 = n.setWidth 32 := by
  apply BitVec.eq_of_toNat_eq
  have masked : n.toNat &&& 0xFFFFFFFF = n.toNat % 2 ^ 32 :=
    Nat.and_two_pow_sub_one_eq_mod n.toNat 32
  rw [BitVec.toNat_setWidth, BitVec.toNat_and, BitVec.toNat_setWidth]
  change (n.toNat &&& 0xFFFFFFFF) % 2 ^ 32 = n.toNat % 2 ^ 32
  rw [masked, Nat.mod_mod]

@[simp] theorem unpack_pack (steal real : Index) : unpack (pack steal real) = (steal, real) := by
  unfold unpack
  rw [setWidth_and_low]
  unfold pack
  apply Prod.ext
  · apply BitVec.eq_of_getLsbD_eq
    intro bit inside
    have above : ¬32 + bit < 32 := by omega
    have below : 32 + bit < 64 := by omega
    have wide : bit < 64 := by omega
    simp [inside, above, below, wide]
  · apply BitVec.eq_of_getLsbD_eq
    intro bit inside
    simp [inside]

@[simp] theorem unpack_headAt (steal real : Nat) :
    unpack (headAt steal real) = (index steal, index real) :=
  unpack_pack _ _

theorem headAt_eq (equal : headAt steal real = headAt otherSteal otherReal) :
    index steal = index otherSteal ∧ index real = index otherReal := by
  have halves := congrArg unpack equal
  simpa using halves

theorem index_add (position count : Nat) :
    index position + BitVec.ofNat 32 count = index (position + count) := by
  simp only [index, BitVec.ofNat_add]

theorem index_succ (position : Nat) : index position + 1 = index (position + 1) :=
  index_add position 1

theorem eq_of_index_eq (ordered : low ≤ high) (near : high < low + 2 ^ 32)
    (equal : index low = index high) : low = high :=
  eq_of_ofNat_eq ordered near equal

theorem toNat_queueLen (ordered : head ≤ tail) (near : tail - head < 2 ^ 32) :
    (queueLen (index head) (index tail)).toNat = tail - head :=
  toNat_ofNat_sub_ofNat ordered near

theorem slot_index (position offset : Nat) :
    slot localQueueCapacity ((index position).toNat + offset) =
      slot localQueueCapacity (position + offset) := by
  apply Fin.ext
  change ((index position).toNat + offset) % 256 = (position + offset) % 256
  simp only [index, BitVec.toNat_ofNat]
  omega

theorem bufferIndex_eq (i : Index) : bufferIndex i = slot localQueueCapacity i.toNat := by
  apply Fin.ext
  change (i &&& localQueueMask).toNat = i.toNat % 256
  rw [BitVec.toNat_and]
  exact Nat.and_two_pow_sub_one_eq_mod i.toNat 8

@[simp] theorem bufferIndex_index (position : Nat) :
    bufferIndex (index position) = slot localQueueCapacity position := by
  rw [bufferIndex_eq]
  exact slot_index position 0

theorem window_index {buffer : Fin localQueueCapacity → T} (position offset length : Nat) :
    window buffer ((index position).toNat + offset) length =
      window buffer (position + offset) length := by
  unfold window
  congr 1
  funext further
  rw [Nat.add_assoc, Nat.add_assoc, slot_index]

namespace LocalRunQueueInner

variable {T : Type} {ring : LocalRunQueueInner T}

/-- The words are the low bits of the positions, and the three positions are in
order and less than a ring apart. -/
structure WellFormed (ring : LocalRunQueueInner T) : Prop where
  head_eq : ring.head = headAt ring.stealPos ring.realPos
  tail_eq : ring.tail = index ring.tailPos
  steal_le : ring.stealPos ≤ ring.realPos
  real_le : ring.realPos ≤ ring.tailPos
  tail_le : ring.tailPos ≤ ring.stealPos + localQueueCapacity

theorem wellFormed_empty [Inhabited T] : (empty : LocalRunQueueInner T).WellFormed where
  head_eq := by
    change 0 = headAt 0 0
    decide
  tail_eq := rfl
  steal_le := le_rfl
  real_le := le_rfl
  tail_le := Nat.zero_le _

def moveHead (ring : LocalRunQueueInner T) (steal real : Nat) : LocalRunQueueInner T :=
  { ring with head := headAt steal real, stealPos := steal, realPos := real }

def moveTail (ring : LocalRunQueueInner T) (tail : Nat) : LocalRunQueueInner T :=
  { ring with tail := index tail, tailPos := tail }

variable (wellFormed : ring.WellFormed)

include wellFormed

theorem WellFormed.setHead (stealLater : ring.stealPos ≤ steal) (realLater : ring.realPos ≤ real)
    (ordered : steal ≤ real) (real_le : real ≤ ring.tailPos) :
    ring.setHead (headAt steal real) = ring.moveHead steal real := by
  have tail_le := wellFormed.tail_le
  have steal_le := wellFormed.steal_le
  simp only [localQueueCapacity] at tail_le
  unfold LocalRunQueueInner.setHead moveHead
  rw [wellFormed.head_eq]
  simp only [unpack_headAt]
  have stealAdvance : (index steal - index ring.stealPos).toNat = steal - ring.stealPos :=
    toNat_ofNat_sub_ofNat stealLater (by omega)
  have realAdvance : (index real - index ring.realPos).toNat = real - ring.realPos :=
    toNat_ofNat_sub_ofNat realLater (by omega)
  rw [stealAdvance, realAdvance, Nat.add_sub_cancel' stealLater, Nat.add_sub_cancel' realLater]

theorem WellFormed.moveHead (stealLater : ring.stealPos ≤ steal) (ordered : steal ≤ real)
    (real_le : real ≤ ring.tailPos) : (ring.moveHead steal real).WellFormed where
  head_eq := rfl
  tail_eq := wellFormed.tail_eq
  steal_le := ordered
  real_le := real_le
  tail_le := wellFormed.tail_le.trans (Nat.add_le_add_right stealLater _)

theorem WellFormed.storeTail {tail : Nat}
    (later : ring.tailPos ≤ tail) (near : tail ≤ ring.stealPos + localQueueCapacity) :
    ring.storeTail (index tail) = ring.moveTail tail := by
  have steal_le := wellFormed.steal_le
  have real_le := wellFormed.real_le
  simp only [localQueueCapacity] at near
  unfold LocalRunQueueInner.storeTail moveTail
  rw [wellFormed.tail_eq]
  have advance : (index tail - index ring.tailPos).toNat = tail - ring.tailPos :=
    toNat_ofNat_sub_ofNat later (by omega)
  rw [advance, Nat.add_sub_cancel' later]

theorem WellFormed.moveTail {tail : Nat}
    (later : ring.tailPos ≤ tail) (near : tail ≤ ring.stealPos + localQueueCapacity) :
    (ring.moveTail tail).WellFormed where
  head_eq := wellFormed.head_eq
  tail_eq := rfl
  steal_le := wellFormed.steal_le
  real_le := wellFormed.real_le.trans later
  tail_le := near

theorem WellFormed.write (index : Index) (task : T) : (ring.write index task).WellFormed :=
  { wellFormed with }

theorem WellFormed.toNat_len :
    (queueLen (unpack ring.head).1 ring.tail).toNat = ring.tailPos - ring.stealPos := by
  have steal_le := wellFormed.steal_le
  have real_le := wellFormed.real_le
  have tail_le := wellFormed.tail_le
  simp only [localQueueCapacity] at tail_le
  rw [wellFormed.head_eq, wellFormed.tail_eq, unpack_headAt]
  exact toNat_queueLen (by omega) (by omega)

/-- The tasks that a `pop` or a thief can still take. -/
def live (ring : LocalRunQueueInner T) : Multiset T :=
  window ring.buffer ring.realPos (ring.tailPos - ring.realPos)

end LocalRunQueueInner

end CoroRuntime.RunQueue
