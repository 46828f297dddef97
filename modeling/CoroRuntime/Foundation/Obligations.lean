import Mathlib.Data.List.Basic

/-! # Obligations followed by a list

A party owes the completion of some jobs. It keeps a list of those it still has to
wait for, and sweeps the completed ones from it.
-/

namespace CoroRuntime.Foundation

def Tracked (owed waiting : List Job) (completed : Job → Bool) : Prop :=
  ∀ job ∈ owed, job ∈ waiting ∨ completed job

def Settled (owed : List Job) (completed : Job → Bool) : Prop :=
  ∀ job ∈ owed, completed job

variable {owed waiting : List Job} {completed afterwards : Job → Bool}

theorem Settled.tracked (settled : Settled owed completed) : Tracked owed waiting completed :=
  fun job member => .inr (settled job member)

theorem Settled.later (settled : Settled owed completed)
    (grows : ∀ job, completed job → afterwards job) : Settled owed afterwards :=
  fun job member => grows job (settled job member)

theorem Settled.add (settled : Settled owed completed) (done : completed job) :
    Settled (owed ++ [job]) completed := by
  intro other member
  rcases List.mem_append.mp member with before | added
  · exact settled other before
  · rw [List.mem_singleton.mp added]
    exact done

namespace Tracked

variable (tracked : Tracked owed waiting completed)

include tracked

theorem later (grows : ∀ job, completed job → afterwards job) : Tracked owed waiting afterwards :=
  fun job member => (tracked job member).imp_right (grows job)

omit tracked in
theorem settled (tracked : Tracked owed [] completed) : Settled owed completed := by
  intro job member
  exact (tracked job member).resolve_left List.not_mem_nil

theorem register (job : Job) : Tracked (owed ++ [job]) (waiting ++ [job]) completed := by
  intro other member
  rcases List.mem_append.mp member with before | added
  · exact (tracked other before).imp_left (List.mem_append_left _)
  · exact .inl (List.mem_append_right _ added)

theorem add (done : completed job) : Tracked (owed ++ [job]) waiting completed := by
  intro other member
  rcases List.mem_append.mp member with before | added
  · exact tracked other before
  · rw [List.mem_singleton.mp added]
    exact .inr done

theorem sweep : Tracked owed (waiting.filter fun job => !completed job) completed := by
  intro job member
  rcases tracked job member with waits | done
  · cases finished : completed job with
    | true => exact .inr rfl
    | false => exact .inl (List.mem_filter.mpr ⟨waits, by simp [finished]⟩)
  · exact .inr done

end Tracked

end CoroRuntime.Foundation
