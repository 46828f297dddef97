import Mathlib.Data.List.Nodup

/-! # Counting the members of a list

How a count changes when the counted property changes at one member.
-/

namespace CoroRuntime.Foundation

variable {members : List Member} {before after : Member → Bool} {member : Member}

theorem countP_congr_of_ne (same : ∀ other ∈ members, other ≠ member → after other = before other)
    (absent : member ∉ members) : members.countP after = members.countP before := by
  apply List.countP_congr
  intro other present
  rw [same other present (by rintro rfl; exact absent present)]

theorem countP_change (before after : Member → Bool) (nodup : members.Nodup)
    (present : member ∈ members)
    (same : ∀ other ∈ members, other ≠ member → after other = before other) :
    members.countP after + (before member).toNat =
      members.countP before + (after member).toNat := by
  induction members with
  | nil => cases present
  | cons head rest induction =>
    rw [List.nodup_cons] at nodup
    have restSame : ∀ other ∈ rest, other ≠ member → after other = before other :=
      fun other inside => same other (List.mem_cons_of_mem _ inside)
    by_cases here : head = member
    · subst here
      have unchanged := countP_congr_of_ne restSame nodup.1
      cases heads : before head <;> cases ends : after head <;>
        simp [heads, ends, unchanged]
    · have inside : member ∈ rest := (List.mem_cons.mp present).resolve_left (Ne.symm here)
      have counted := induction nodup.2 inside restSame
      have headSame := same head List.mem_cons_self here
      simp only [List.countP_cons, headSame]
      omega

theorem countP_set {items : List Member} (found : items[index]? = some old) (new : Member)
    (counted : Member → Bool) :
    (items.set index new).countP counted + (counted old).toNat =
      items.countP counted + (counted new).toNat := by
  rcases List.getElem?_eq_some_iff.mp found with ⟨inside, here⟩
  have positive : counted old → 0 < items.countP counted :=
    fun counts => List.countP_pos_iff.mpr ⟨old, here ▸ List.getElem_mem inside, counts⟩
  rw [List.countP_set inside, here]
  cases oldCounts : counted old with
  | false => cases newCounts : counted new <;> simp
  | true =>
    have nonempty := positive oldCounts
    cases newCounts : counted new <;> simp <;> omega

end CoroRuntime.Foundation
