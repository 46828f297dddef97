import Mathlib.Algebra.BigOperators.Group.Finset.Basic
import Mathlib.Data.Fintype.BigOperators

/-! # Bookkeeping over places

Things that are always in some place. A transaction leaves every place as it is,
puts something new in one place, or moves something from one place to another;
nothing is lost or copied by it.
-/

open scoped BigOperators

namespace CoroRuntime.Foundation

variable {Place : Type u} {M : Type v} [AddCommMonoid M] {before after : Place → M}

structure Supply (before after : Place → M) (target : Place) (added : M) : Prop where
  put : after target = before target + added
  kept : ∀ place, place ≠ target → after place = before place

structure Transfer (before after : Place → M) (source target : Place) (moved : M) : Prop where
  apart : source ≠ target
  taken : before source = after source + moved
  put : after target = before target + moved
  kept : ∀ place, place ≠ source → place ≠ target → after place = before place

/-- What one step does to the places, and what it adds to them. -/
inductive Transaction (before after : Place → M) : M → Prop
  | still : after = before → Transaction before after 0
  | supply (target added) : Supply before after target added → Transaction before after added
  | transfer (source target moved) :
      Transfer before after source target moved → Transaction before after 0

section Total

variable [Fintype Place]

theorem Supply.sum_eq (supply : Supply before after target added) :
    ∑ place, after place = ∑ place, before place + added := by
  classical
  have rest : ∑ place ∈ Finset.univ.erase target, after place =
      ∑ place ∈ Finset.univ.erase target, before place :=
    Finset.sum_congr rfl fun place member => supply.kept place (Finset.ne_of_mem_erase member)
  rw [← Finset.add_sum_erase Finset.univ after (Finset.mem_univ target),
    ← Finset.add_sum_erase Finset.univ before (Finset.mem_univ target), rest, supply.put]
  ac_rfl

theorem Transfer.sum_eq (transfer : Transfer before after source target moved) :
    ∑ place, after place = ∑ place, before place := by
  classical
  -- the tasks in transit between the two places, seen as a supply of the target
  have put : Supply (Function.update before source (after source)) after target moved := by
    constructor
    · rw [Function.update_of_ne transfer.apart.symm]
      exact transfer.put
    · intro place notTarget
      by_cases same : place = source
      · rw [same, Function.update_self]
      · rw [Function.update_of_ne same]
        exact transfer.kept place same notTarget
  have taken : Supply (Function.update before source (after source)) before source moved := by
    constructor
    · rw [Function.update_self]
      exact transfer.taken
    · intro place notSource
      rw [Function.update_of_ne notSource]
  rw [put.sum_eq, taken.sum_eq]

theorem Transaction.sum_eq (transaction : Transaction before after added) :
    ∑ place, after place = ∑ place, before place + added := by
  cases transaction with
  | still same => rw [same, add_zero]
  | supply target added supplied => exact supplied.sum_eq
  | transfer source target moved transferred => rw [transferred.sum_eq, add_zero]

/-- Where nothing occurs twice altogether, everything has one place. -/
theorem place_unique {holdings : Place → Multiset α} (once : (∑ place, holdings place).Nodup)
    (inLeft : item ∈ holdings left) (inRight : item ∈ holdings right) : left = right := by
  classical
  by_contra different
  rw [← Finset.add_sum_erase Finset.univ holdings (Finset.mem_univ left),
    Multiset.nodup_add] at once
  have elsewhere : item ∈ ∑ place ∈ Finset.univ.erase left, holdings place :=
    Multiset.mem_sum.mpr
      ⟨right, Finset.mem_erase.mpr ⟨Ne.symm different, Finset.mem_univ right⟩, inRight⟩
  exact Multiset.disjoint_left.mp once.2.2 inLeft elsewhere

end Total

end CoroRuntime.Foundation
