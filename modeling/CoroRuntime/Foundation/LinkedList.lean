import Mathlib.Data.List.Nodup
import Mathlib.Logic.Function.Basic

/-! # Intrusive doubly linked lists

Lists whose links are kept in the nodes themselves, as two tables. Several lists without a
common node share the tables. `Chain` says which list the links from some head describe.
-/

namespace CoroRuntime.Foundation

open Function (update update_self update_of_ne)

structure Links (Node : Type u) where
  prev : Node → Option Node := fun _ => none
  next : Node → Option Node := fun _ => none

namespace Links

variable {Node : Type u}

/-- The links of these nodes are those of the list. -/
def Chain (links : Links Node) (nodes : List Node) : Prop :=
  ∀ front node back, nodes = front ++ node :: back →
    links.prev node = front.getLast? ∧ links.next node = back.head?

def walk (links : Links Node) : Nat → Option Node → List Node
  | fuel + 1, some node => node :: links.walk fuel (links.next node)
  | _, _ => []

theorem chain_nil (links : Links Node) : links.Chain [] := by
  intro front node back impossible
  simp at impossible

theorem Chain.frame {links other : Links Node} (chain : links.Chain nodes)
    (prev : ∀ node ∈ nodes, other.prev node = links.prev node)
    (next : ∀ node ∈ nodes, other.next node = links.next node) : other.Chain nodes := by
  intro front node back split
  have member : node ∈ nodes := by simp [split]
  rw [prev node member, next node member]
  exact chain front node back split

theorem Chain.walk_suffix {links : Links Node} (chain : links.Chain nodes) (front : List Node)
    (split : nodes = front ++ back) (enough : back.length ≤ fuel) :
    links.walk fuel back.head? = back := by
  induction back generalizing front fuel with
  | nil =>
    cases fuel <;> rfl
  | cons node back induction =>
    cases fuel with
    | zero => simp at enough
    | succ fuel =>
      have following := (chain front node back split).2
      have rest := induction (front ++ [node]) (by simp [split])
        (Nat.le_of_succ_le_succ enough)
      simp only [List.head?_cons, walk, following, rest]

theorem Chain.walk {links : Links Node} (chain : links.Chain nodes) (enough : nodes.length ≤ fuel) :
    links.walk fuel nodes.head? = nodes :=
  chain.walk_suffix [] rfl enough

/-- The links of these nodes, which stand between two others -/
def Segment (links : Links Node) : Option Node → List Node → Option Node → Prop
  | _, [], _ => True
  | before, node :: rest, after =>
    links.prev node = before ∧ links.next node = rest.head?.or after ∧
      links.Segment (some node) rest after

theorem segment_append {links : Links Node} {front back : List Node} :
    links.Segment before (front ++ back) after ↔
      links.Segment before front (back.head?.or after) ∧
        links.Segment (front.getLast?.or before) back after := by
  induction front generalizing before with
  | nil => simp [Segment]
  | cons node rest induction =>
    rw [List.cons_append, Segment, Segment, induction, List.head?_append, Option.or_assoc,
      List.getLast?_cons, Option.some_or, and_assoc, and_assoc]
    cases rest.getLast? <;> rfl

theorem chain_iff_segment {links : Links Node} :
    links.Chain nodes ↔ links.Segment none nodes none := by
  suffices general : ∀ before, (∀ front node back, nodes = front ++ node :: back →
      links.prev node = front.getLast?.or before ∧ links.next node = back.head?) ↔
      links.Segment before nodes none by
    simpa only [Option.or_none, Chain] using general none
  induction nodes with
  | nil => simp [Segment]
  | cons first rest induction =>
    intro before
    rw [Segment, ← induction]
    constructor
    · intro all
      have here := all [] first rest rfl
      refine ⟨by simpa using here.1, by simpa using here.2, fun front node back split => ?_⟩
      have there := all (first :: front) node back (by simp [split])
      rw [List.getLast?_cons] at there
      cases is : front.getLast? <;> simpa [is] using there
    · rintro ⟨prev, next, others⟩ front node back split
      cases front with
      | nil =>
        cases split
        exact ⟨prev, next.trans Option.or_none⟩
      | cons head front =>
        rw [List.cons_append, List.cons.injEq] at split
        rcases split with ⟨rfl, split⟩
        have there := others front node back split
        rw [List.getLast?_cons]
        cases is : front.getLast? <;> simpa [is] using there

theorem Segment.frame {links other : Links Node} (segment : links.Segment before nodes after)
    (prev : ∀ node ∈ nodes, other.prev node = links.prev node)
    (next : ∀ node ∈ nodes, other.next node = links.next node) :
    other.Segment before nodes after := by
  induction nodes generalizing before with
  | nil => trivial
  | cons node rest induction =>
    rw [List.forall_mem_cons] at prev next
    exact ⟨prev.1.trans segment.1, next.1.trans segment.2.1,
      induction segment.2.2 prev.2 next.2⟩

variable [DecidableEq Node]

/-- Write through a link: nothing is written where there is no node. -/
def assign (table : Node → Option Node) : Option Node → Option Node → Node → Option Node
  | some node, link => update table node link
  | none, _ => table

theorem assign_other {other : Node} (different : target ≠ some other) :
    assign table target link other = table other := by
  cases target with
  | none => rfl
  | some node =>
    refine update_of_ne ?_ ..
    rintro rfl
    exact different rfl

theorem assign_some (table : Node → Option Node) (link : Option Node) (node : Node) :
    assign table (some node) link node = link :=
  update_self ..

/-- Write the link behind `last` and the one before `first`. -/
def relink (last first next prev : Option Node) (links : Links Node) : Links Node where
  prev := assign links.prev first prev
  next := assign links.next last next

/-- The node becomes the first one, before `head`. -/
def pushFront (head : Option Node) (node : Node) (links : Links Node) : Links Node where
  prev := assign (update links.prev node none) head (some node)
  next := update links.next node head

def unlink (head : Option Node) (node : Node) (links : Links Node) : Option Node × Links Node :=
  (if (links.prev node).isSome then head else links.next node,
  { prev := update (assign links.prev (links.next node) (links.prev node)) node none
    next := update (assign links.next (links.prev node) (links.next node)) node none })

variable {links : Links Node} {nodes front back : List Node} {node : Node} {head : Option Node}

theorem Segment.setFirst (segment : links.Segment before nodes after) (nodup : nodes.Nodup)
    (link : Option Node) :
    Segment { links with prev := assign links.prev nodes.head? link } link nodes after := by
  cases nodes with
  | nil => trivial
  | cons first rest =>
    have absent := (List.nodup_cons.mp nodup).1
    refine ⟨assign_some .., segment.2.1, segment.2.2.frame (fun other member => ?_) fun _ _ => rfl⟩
    have different : some first ≠ some other := by
      rintro ⟨⟩
      exact absent member
    exact assign_other different

theorem Segment.setLast (segment : links.Segment before nodes after) (nodup : nodes.Nodup)
    (link : Option Node) :
    Segment { links with next := assign links.next nodes.getLast? link } before nodes link := by
  rcases List.eq_nil_or_concat nodes with rfl | ⟨front, last, rfl⟩
  · trivial
  · rw [List.concat_eq_append] at segment nodup ⊢
    rw [segment_append] at segment ⊢
    rw [List.getLast?_concat]
    refine ⟨segment.1.frame (fun _ _ => rfl) fun other member => ?_, segment.2.1, ?_, trivial⟩
    · have different : some last ≠ some other := by
        rintro ⟨⟩
        exact (List.nodup_append.mp nodup).2.2 last member last (by simp) rfl
      exact assign_other different
    · exact assign_some ..

theorem Segment.relink (first : links.Segment before front link)
    (second : links.Segment link' back after) (nodup : (front ++ back).Nodup)
    (next prev : Option Node) :
    (links.relink front.getLast? back.head? next prev).Segment before front next ∧
      (links.relink front.getLast? back.head? next prev).Segment prev back after := by
  have ⟨nodupFront, nodupBack, apart⟩ := List.nodup_append.mp nodup
  refine ⟨(first.setLast nodupFront next).frame (fun other member => ?_) fun _ _ => rfl,
    (second.setFirst nodupBack prev).frame (fun _ _ => rfl) fun other member => ?_⟩
  · exact assign_other fun same => apart other member other (List.mem_of_mem_head? same) rfl
  · exact assign_other fun same => apart other (List.mem_of_mem_getLast? same) other member rfl

theorem Chain.pushFront (chain : links.Chain nodes) (nodup : nodes.Nodup) (new : node ∉ nodes) :
    (links.pushFront nodes.head? node).Chain (node :: nodes) := by
  rw [chain_iff_segment] at chain ⊢
  have apart : ∀ other ∈ nodes, other ≠ node := by
    rintro other member rfl
    exact new member
  have kept : Segment ⟨update links.prev node none, update links.next node nodes.head?⟩ none nodes
      none :=
    chain.frame (fun other member => update_of_ne (apart other member) ..) fun other member =>
      update_of_ne (apart other member) ..
  refine ⟨?_, (update_self ..).trans Option.or_none.symm, kept.setFirst nodup (some node)⟩
  refine (assign_other fun head => ?_).trans (update_self ..)
  exact new (List.mem_of_mem_head? head)

theorem Chain.pushFront_other (chain : links.Chain nodes) {others : List Node}
    (new : node ∉ nodes) (apart : ∀ other ∈ others, other ∉ nodes) :
    (links.pushFront others.head? node).Chain nodes := by
  have different : ∀ other ∈ nodes, other ≠ node := by
    rintro other member rfl
    exact new member
  refine chain.frame (fun other member => ?_) fun other member => ?_
  · refine (assign_other fun head => ?_).trans (update_of_ne (different other member) ..)
    exact apart other (List.mem_of_mem_head? head) member
  · exact update_of_ne (different other member) ..

theorem Chain.unlink_head (chain : links.Chain (front ++ node :: back)) :
    (links.unlink (front ++ node :: back).head? node).1 = (front ++ back).head? := by
  have here := chain front node back rfl
  simp only [unlink, here.1]
  cases front with
  | nil => simpa using here.2
  | cons first front => simp [List.getLast?_cons]

theorem Chain.unlink (chain : links.Chain (front ++ node :: back))
    (nodup : (front ++ node :: back).Nodup) :
    (links.unlink head node).2.Chain (front ++ back) := by
  have here := chain front node back rfl
  rw [chain_iff_segment, segment_append, Segment] at chain
  have ⟨absent, rest⟩ := List.nodup_cons.mp (List.nodup_middle.mp nodup)
  have ⟨first, second⟩ := chain.1.relink chain.2.2.2 rest back.head? front.getLast?
  have different : ∀ other ∈ front ++ back, other ≠ node := by
    rintro other member rfl
    exact absent member
  rw [chain_iff_segment]
  simp only [Links.unlink, here.1, here.2]
  have joined : Segment _ none (front ++ back) none := segment_append.mpr
    ⟨by rwa [Option.or_none], by rwa [Option.or_none]⟩
  exact joined.frame (fun other member => update_of_ne (different other member) ..)
    fun other member => update_of_ne (different other member) ..

theorem Chain.unlink_outside (chain : links.Chain (front ++ node :: back))
    (outside : other ∉ front ++ node :: back) :
    (links.unlink head node).2.prev other = links.prev other ∧
      (links.unlink head node).2.next other = links.next other := by
  have here := chain front node back rfl
  have different : other ≠ node := by
    rintro rfl
    simp at outside
  refine ⟨(update_of_ne different ..).trans (assign_other fun following => ?_),
    (update_of_ne different ..).trans (assign_other fun preceding => ?_)⟩
  · have inside := List.mem_of_mem_head? (here.2.symm.trans following)
    simp [inside] at outside
  · have inside := List.mem_of_mem_getLast? (here.1.symm.trans preceding)
    simp [inside] at outside

theorem Chain.unlink_other (chain : links.Chain others)
    (listed : links.Chain (front ++ node :: back))
    (apart : ∀ other ∈ others, other ∉ front ++ node :: back) :
    (links.unlink head node).2.Chain others :=
  chain.frame (fun other member => (listed.unlink_outside (apart other member)).1)
    fun other member => (listed.unlink_outside (apart other member)).2

end Links

end CoroRuntime.Foundation
