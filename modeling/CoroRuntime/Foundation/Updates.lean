import Mathlib.Logic.Function.Basic

/-! # Tables with one entry changed

Who has a given entry once one of them has changed.
-/

namespace CoroRuntime.Foundation

variable {Key : Type u} [DecidableEq Key] {Value : Type v}

theorem exists_update_eq {key : Key} :
    (∃ other, Function.update values key new other = wanted) ↔
      new = wanted ∨ ∃ other, other ≠ key ∧ values other = wanted := by
  constructor
  · rintro ⟨other, is⟩
    by_cases here : other = key
    · subst here
      rw [Function.update_self] at is
      exact .inl is
    · rw [Function.update_of_ne here] at is
      exact .inr ⟨other, here, is⟩
  · rintro (is | ⟨other, different, is⟩)
    · exact ⟨key, (Function.update_self ..).trans is⟩
    · exact ⟨other, (Function.update_of_ne different ..).trans is⟩

/-- An entry of some kind stays if the one that changes is still of that kind. -/
theorem exists_update_of_imp {key : Key} (holds : Value → Prop)
    (present : ∃ other, holds (values other)) (keeps : holds (values key) → holds new) :
    ∃ other, holds (Function.update values key new other) := by
  rcases present with ⟨other, is⟩
  by_cases here : other = key
  · subst here
    exact ⟨other, (Function.update_self other new values).symm ▸ keeps is⟩
  · exact ⟨other, (Function.update_of_ne here new values).symm ▸ is⟩

theorem exists_update_of_ne {values : Key → Value} (present : ∃ other, values other = wanted)
    (different : values key ≠ wanted) : ∃ other, Function.update values key new other = wanted :=
  exists_update_of_imp (· = wanted) present fun is => absurd is different

end CoroRuntime.Foundation
