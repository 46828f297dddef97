import Mathlib.Logic.Function.Basic

/-! # Who is inside a region

Families of program counters, one for each thread, and the two occupancies a
critical region may have: nobody is inside it, or exactly one thread is.
-/

namespace CoroRuntime.Foundation

open Function (update update_of_ne)

def Nobody (inside : α → Bool) (family : ι → α) : Prop :=
  ∀ index, inside (family index) = false

def Sole (inside : α → Bool) (family : ι → α) : Prop :=
  ∃ index, inside (family index) = true ∧
    ∀ other, inside (family other) = true → other = index

section Update

variable {ι : Type u} [DecidableEq ι] {inside : α → Bool} {family : ι → α}
  {index : ι} {value : α}

theorem Nobody.stays (nobody : Nobody inside family) (outside : inside value = false) :
    Nobody inside (update family index value) := by
  intro other
  by_cases same : other = index
  · subst same
    simpa using outside
  · simpa [same] using nobody other

theorem Nobody.enters (nobody : Nobody inside family) (entered : inside value = true) :
    Sole inside (update family index value) := by
  refine ⟨index, by simpa using entered, ?_⟩
  intro other otherInside
  by_contra different
  rw [update_of_ne different, nobody other] at otherInside
  exact Bool.noConfusion otherInside

theorem Sole.leaves (sole : Sole inside family) (wasInside : inside (family index) = true)
    (outside : inside value = false) :
    Nobody inside (update family index value) := by
  rcases sole with ⟨holder, _, unique⟩
  intro other
  by_cases same : other = index
  · subst same
    simpa using outside
  · rw [update_of_ne same]
    by_contra stillInside
    rw [Bool.not_eq_false] at stillInside
    exact same ((unique other stillInside).trans (unique index wasInside).symm)

theorem Sole.stays (sole : Sole inside family)
    (unchanged : inside value = inside (family index)) :
    Sole inside (update family index value) := by
  rcases sole with ⟨holder, holderInside, unique⟩
  have agrees : ∀ other, inside (update family index value other) =
      inside (family other) := by
    intro other
    by_cases same : other = index
    · subst same
      simpa using unchanged
    · rw [update_of_ne same]
  refine ⟨holder, (agrees holder).trans holderInside, ?_⟩
  intro other otherInside
  exact unique other ((agrees other).symm.trans otherInside)

end Update

theorem Sole.eq (sole : Sole inside family) (leftInside : inside (family left) = true)
    (rightInside : inside (family right) = true) : left = right := by
  rcases sole with ⟨holder, _, unique⟩
  exact (unique left leftInside).trans (unique right rightInside).symm

end CoroRuntime.Foundation
