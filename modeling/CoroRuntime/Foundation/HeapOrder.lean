import Mathlib.Order.Defs.Unbundled
import Mathlib.Order.RelClasses
import Mathlib.Data.List.Sort

/-! # Vectors in heap order

A binary heap that is kept in a vector, as far as its contract goes: what a vector in
heap order is, and what the three library operations on it promise. How they move the
items is up to the library.
-/

namespace CoroRuntime.Foundation

/-- No item comes before its parent. -/
def IsHeap (before : Item → Item → Prop) (items : List Item) : Prop :=
  ∀ child parent : Fin items.length, parent.val = (child.val - 1) / 2 →
    ¬ before (items.get child) (items.get parent)

/-- The contract of `push_heap`, `pop_heap` and `make_heap`. -/
structure HeapLibrary (Item : Type u) (before : Item → Item → Prop) where
  push : List Item → List Item
  pop : List Item → List Item
  make : List Item → List Item
  push_perm : ∀ items, (push items).Perm items
  push_heap : ∀ items item, IsHeap before items → IsHeap before (push (items ++ [item]))
  /-- The first item goes to the end, and the others are a heap again. -/
  pop_heap : ∀ first rest, IsHeap before (first :: rest) →
    ∃ others, pop (first :: rest) = others ++ [first] ∧ others.Perm rest ∧ IsHeap before others
  make_perm : ∀ items, (make items).Perm items
  make_heap : ∀ items, IsHeap before (make items)

variable {before : Item → Item → Prop}

theorem isHeap_nil : IsHeap before [] :=
  fun child => child.elim0

theorem IsHeap.first [IsOrderConnected Item before] [Std.Irrefl before] {first : Item}
    (heap : IsHeap before (first :: rest)) (inside : item ∈ first :: rest) :
    ¬ before item first := by
  rcases List.mem_iff_get.mp inside with ⟨position, rfl⟩
  rcases position with ⟨position, bound⟩
  induction position using Nat.strongRecOn with
  | ind position induction =>
    by_cases root : position = 0
    · subst root
      exact irrefl_of before first
    · have parentBound : (position - 1) / 2 < (first :: rest).length := by omega
      have above := induction ((position - 1) / 2) (by omega) parentBound
        (List.get_mem _ _)
      intro earlier
      rcases IsOrderConnected.conn _ ((first :: rest).get ⟨(position - 1) / 2, parentBound⟩) _
        earlier with wrong | wrong
      · exact heap ⟨position, bound⟩ ⟨_, parentBound⟩ rfl wrong
      · exact above wrong

theorem isHeap_of_pairwise [Std.Irrefl before]
    (sorted : items.Pairwise fun left right => ¬ before right left) : IsHeap before items := by
  intro child parent above
  by_cases same : parent = child
  · rw [same]
    exact irrefl_of before _
  · exact List.pairwise_iff_get.mp sorted parent child (by omega)

section Sorted

variable [DecidableRel before] [IsOrderConnected Item before] [Std.Asymm before]

theorem isHeap_insertionSort (items : List Item) :
    IsHeap before (items.insertionSort fun left right => ¬ before right left) := by
  have total : Std.Total fun left right : Item => ¬ before right left := by
    constructor
    intro left right
    by_contra both
    rw [not_or, not_not, not_not] at both
    exact Std.Asymm.asymm _ _ both.1 both.2
  have trans : IsTrans Item fun left right => ¬ before right left := by
    constructor
    intro left middle right first second earlier
    rcases IsOrderConnected.conn _ middle _ earlier with wrong | wrong
    · exact second wrong
    · exact first wrong
  exact isHeap_of_pairwise (List.pairwise_insertionSort _ items)

/-- Keeping the vector sorted is one way to meet the contract. -/
def HeapLibrary.sorted : HeapLibrary Item before where
  push := List.insertionSort fun left right => ¬ before right left
  pop
    | [] => []
    | first :: rest => rest.insertionSort (fun left right => ¬ before right left) ++ [first]
  make := List.insertionSort fun left right => ¬ before right left
  push_perm := List.perm_insertionSort _
  push_heap items item _ := isHeap_insertionSort (items ++ [item])
  pop_heap _ rest _ := ⟨_, rfl, List.perm_insertionSort _ rest, isHeap_insertionSort rest⟩
  make_perm := List.perm_insertionSort _
  make_heap := isHeap_insertionSort

end Sorted

end CoroRuntime.Foundation
