import CoroRuntime.Rc.Pointers
import CoroRuntime.Foundation.Counting

/-! # The counts of a control block

The counts of a block are the numbers of pointers to it that have not begun to release it. A
pointer whose `release()` runs the destructor of the value still points to the block.
-/

namespace CoroRuntime.Rc

open Foundation

variable {Ptr : Type u} {state next : State Ptr} {slot : Nat}

def refs (strong : Bool) (block : Nat) : Option (Pointer Ptr) → Bool
  | some pointer =>
    pointer.strong == strong && !pointer.releasing && pointer.block == some block
  | none => false

def Block.count (strong : Bool) (block : Block) : Int :=
  if strong then block.strongCount else block.weakCount

/-- A value is destroyed when there is no strong pointer, and a block freed when there is no
pointer and its destructor does not run. -/
structure Block.Consistent (block : Block) : Prop where
  destructions : block.destructions = if block.strongCount = 0 then 1 else 0
  frees : block.frees =
    if block.strongCount = 0 ∧ block.weakCount = 0 ∧ block.destroying = false then 1 else 0
  destroying : block.destroying → block.strongCount = 0

def Next.source : Next Ptr → Option (Nat × Option Nat × Option Ptr)
  | .copy source block ptr | .move source block ptr => some (source, block, ptr)
  | .clear | .destroy => none

structure Frame.Fits (state : State Ptr) (frame : Frame Ptr) : Prop where
  target : ∃ target, state.pointer frame.target = some target ∧ target.strong ∧
    target.releasing ∧ target.block = some frame.block
  block : ∃ block, state.blocks[frame.block]? = some block ∧ block.destroying
  source : ∀ origin block ptr, frame.next.source = some (origin, block, ptr) →
    origin ≠ frame.target ∧ ∃ source, state.pointer origin = some source ∧ source.strong ∧
      source.releasing = false ∧ source.block = block ∧ source.ptr = ptr

/-- What goes on neither writes the pointer nor takes anything from it. -/
def Frame.Spares (frame : Frame Ptr) (index : Nat) : Prop :=
  frame.target ≠ index ∧
    ∀ origin block ptr, frame.next.source = some (origin, block, ptr) → origin ≠ index

def Next.writes (target : Nat) : Next Ptr → List Nat
  | .move source _ _ => [target, source]
  | .copy _ _ _ | .clear | .destroy => [target]

/-- What holds between two moves. In the middle of one, a pointer may have given up its share
without a destructor that runs. -/
structure Sound (except : Option Nat) (state : State Ptr) : Prop where
  counts : ∀ strong index block, state.blocks[index]? = some block →
    block.count strong = (state.pointers.countP (refs strong index) : Int)
  consistent : ∀ (index : Nat) block, state.blocks[index]? = some block → block.Consistent
  present : ∀ index pointer slot, state.pointer index = some pointer → pointer.block = some slot →
    slot < state.blocks.length
  fits : ∀ frame ∈ state.stack, frame.Fits state
  nodup : (state.stack.map Frame.block).Nodup
  ordered : state.stack.Pairwise fun inner outer =>
    ∀ index ∈ inner.next.writes inner.target, outer.Spares index
  destroying : ∀ (index : Nat) block, state.blocks[index]? = some block → block.destroying →
    index ∈ state.stack.map Frame.block
  releasing : ∀ index pointer, state.pointer index = some pointer → pointer.releasing →
    except = some index ∨ ∃ frame ∈ state.stack, frame.target = index
  misused : state.misused = false

theorem Next.target_mem_writes (next : Next Ptr) : target ∈ next.writes target := by
  cases next <;> simp [Next.writes]

/-! ## Looking up -/

namespace State

theorem pointer_eq_some {pointer : Pointer Ptr} :
    state.pointer index = some pointer ↔ state.pointers[index]? = some (some pointer) := by
  rw [State.pointer, Option.join_eq_some_iff]

theorem pointer_setPointer (found : state.pointer index = some old) (new : Option (Pointer Ptr)) :
    (state.setPointer index new).pointer index = new := by
  rw [setPointer, State.pointer, List.getElem?_set_self', pointer_eq_some.mp found]
  rfl

theorem pointer_of_set {pointers : List (Option (Pointer Ptr))} (different : other ≠ index) :
    (pointers.set index new)[other]?.join = pointers[other]?.join := by
  rw [List.getElem?_set_ne (Ne.symm different)]

theorem pointer_cases {pointer : Pointer Ptr}
    (found : (state.pointers.set index new)[other]?.join = some pointer) :
    (other = index ∧ new = some pointer) ∨
      (other ≠ index ∧ state.pointer other = some pointer) := by
  by_cases same : other = index
  · subst same
    rw [List.getElem?_set_self'] at found
    cases there : state.pointers[other]? <;> simp_all
  · rw [pointer_of_set same] at found
    exact .inr ⟨same, found⟩

end State

/-- The pointer is neither the target nor the source of something that goes on. -/
def State.Idle (state : State Ptr) (index : Nat) : Prop :=
  ∀ frame ∈ state.stack, frame.Spares index

theorem Frame.Fits.keep {frame : Frame Ptr} (fits : frame.Fits state)
    (target : next.pointer frame.target = state.pointer frame.target)
    (source : ∀ origin block ptr, frame.next.source = some (origin, block, ptr) →
      next.pointer origin = state.pointer origin)
    (block : ∀ block, state.blocks[frame.block]? = some block → block.destroying →
      ∃ block, next.blocks[frame.block]? = some block ∧ block.destroying) :
    frame.Fits next where
  target := by rw [target]; exact fits.target
  block := by
    rcases fits.block with ⟨old, found, destroying⟩
    exact block old found destroying
  source origin held ptr is := by
    rcases fits.source origin held ptr is with ⟨different, pointer, found, rest⟩
    exact ⟨different, pointer, (source origin held ptr is).trans found, rest⟩

theorem Sound.change (sound : Sound except state) (blocks : List Block)
    (found : state.pointers[index]? = some before) (idle : state.Idle index)
    (length : blocks.length = state.blocks.length)
    (changed : ∀ (slot : Nat) block', blocks[slot]? = some block' →
      ∃ block, state.blocks[slot]? = some block ∧ block'.destroying = block.destroying ∧
        ∀ strong, block'.count strong + (refs strong slot before).toNat =
          block.count strong + (refs strong slot after).toNat)
    (consistent : ∀ (slot : Nat) block', blocks[slot]? = some block' → block'.Consistent)
    (present : ∀ pointer slot, after = some pointer → pointer.block = some slot →
      slot < state.blocks.length)
    (releasing : ∀ pointer, after = some pointer → pointer.releasing → except' = some index)
    (exempt : ∀ other, except = some other → other = index) :
    Sound except' { state with pointers := state.pointers.set index after, blocks } where
  counts strong slot block' there := by
    rcases changed slot block' there with ⟨block, was, -, adjusted⟩
    have counted := countP_set found after (refs strong slot)
    have before' := sound.counts strong slot block was
    have after' := adjusted strong
    simp only at counted ⊢
    omega
  consistent := consistent
  present other pointer slot there points := by
    rw [length]
    rcases State.pointer_cases there with ⟨-, is⟩ | ⟨-, old⟩
    · exact present pointer slot is points
    · exact sound.present other pointer slot old points
  fits frame member := by
    rcases idle frame member with ⟨target, source⟩
    refine (sound.fits frame member).keep (State.pointer_of_set target) ?_ ?_
    · exact fun origin block ptr is => State.pointer_of_set (source origin block ptr is)
    · intro block was destroying
      have inside : frame.block < blocks.length := by
        rw [length]
        exact (List.getElem?_eq_some_iff.mp was).1
      rcases changed frame.block _ (List.getElem?_eq_getElem inside) with ⟨old, same, kept, -⟩
      rw [was, Option.some.injEq] at same
      subst same
      exact ⟨_, List.getElem?_eq_getElem inside, kept.trans destroying⟩
  nodup := sound.nodup
  ordered := sound.ordered
  destroying slot block' there destroying := by
    rcases changed slot block' there with ⟨block, was, kept, -⟩
    exact sound.destroying slot block was (kept.symm.trans destroying)
  releasing other pointer there is := by
    rcases State.pointer_cases there with ⟨rfl, new⟩ | ⟨different, old⟩
    · exact .inl (releasing pointer new is)
    · rcases sound.releasing other pointer old is with here | inside
      · exact absurd (exempt other here) different
      · exact .inr inside
  misused := sound.misused

theorem Sound.replace (sound : Sound except state) (found : state.pointers[index]? = some before)
    (idle : state.Idle index)
    (same : ∀ strong slot, refs strong slot after = refs strong slot before)
    (present : ∀ pointer slot, after = some pointer → pointer.block = some slot →
      slot < state.blocks.length)
    (releasing : ∀ pointer, after = some pointer → pointer.releasing → except' = some index)
    (exempt : ∀ other, except = some other → other = index) :
    Sound except' { state with pointers := state.pointers.set index after } := by
  refine sound.change state.blocks found idle rfl ?_ sound.consistent present
    releasing exempt
  intro slot block there
  exact ⟨block, there, rfl, fun strong => by rw [same]⟩

theorem block_cases {blocks : List Block} (there : blocks[slot]? = some block)
    (inside : (blocks.set slot block')[other]? = some found) :
    (other = slot ∧ found = block') ∨ (other ≠ slot ∧ blocks[other]? = some found) := by
  by_cases same : other = slot
  · subst same
    rw [List.getElem?_set_self', there] at inside
    exact .inl ⟨rfl, (Option.some.inj inside).symm⟩
  · rw [List.getElem?_set_ne (Ne.symm same)] at inside
    exact .inr ⟨same, inside⟩

theorem Sound.adjust (sound : Sound except state) (after : Option (Pointer Ptr)) (block' : Block)
    (found : state.pointers[index]? = some before) (idle : state.Idle index)
    (there : state.blocks[slot]? = some block) (kept : block'.destroying = block.destroying)
    (adjusted : ∀ strong, block'.count strong + (refs strong slot before).toNat =
      block.count strong + (refs strong slot after).toNat)
    (elsewhere : ∀ strong other, other ≠ slot → refs strong other after = refs strong other before)
    (consistent : block'.Consistent)
    (present : ∀ pointer slot, after = some pointer → pointer.block = some slot →
      slot < state.blocks.length)
    (releasing : ∀ pointer, after = some pointer → pointer.releasing → except' = some index)
    (exempt : ∀ other, except = some other → other = index) :
    Sound except' { state with
      pointers := state.pointers.set index after
      blocks := state.blocks.set slot block' } := by
  refine sound.change _ found idle List.length_set ?_ ?_ present releasing exempt
  · intro other found inside
    rcases block_cases there inside with ⟨rfl, rfl⟩ | ⟨different, old⟩
    · exact ⟨block, there, kept, adjusted⟩
    · exact ⟨found, old, rfl, fun strong => by rw [elsewhere strong other different]⟩
  · intro other found inside
    rcases block_cases there inside with ⟨rfl, rfl⟩ | ⟨-, old⟩
    · exact consistent
    · exact sound.consistent other found old

/-! ## Shares -/

def Block.add (strong : Bool) (amount : Int) (block : Block) : Block :=
  if strong then { block with strongCount := block.strongCount + amount }
  else { block with weakCount := block.weakCount + amount }

theorem Block.count_add (strong other : Bool) (amount : Int) (block : Block) :
    (block.add strong amount).count other =
      block.count other + if other = strong then amount else 0 := by
  cases strong <;> cases other <;> simp [Block.add, Block.count]

theorem Block.destroying_add (strong : Bool) (amount : Int) (block : Block) :
    (block.add strong amount).destroying = block.destroying := by
  cases strong <;> rfl

theorem Block.Consistent.unfreed {block : Block} (consistent : block.Consistent)
    (shared : 0 < block.count strong) : block.frees = 0 := by
  rw [consistent.frees, if_neg]
  rintro ⟨noStrong, noWeak, -⟩
  cases strong <;> simp [Block.count, noStrong, noWeak] at shared

theorem Block.Consistent.share {block : Block} (consistent : block.Consistent) {strong : Bool}
    (shared : 0 < block.count owner) (may : strong → owner) : (block.add strong 1).Consistent := by
  rcases consistent with ⟨destructions, frees, destroying⟩
  cases strong with
  | true =>
    rw [may rfl] at shared
    simp only [Block.count, if_true] at shared
    constructor <;> simp only [Block.add, if_true] <;> grind -ring -linarith
  | false =>
    constructor <;> cases owner <;> simp [Block.count, Block.add] at shared ⊢ <;>
      grind -ring -linarith

theorem Sound.shared (sound : Sound except state) (found : state.pointer index = some pointer)
    (holds : pointer.releasing = false) (points : pointer.block = some slot) :
    ∃ block, state.blocks[slot]? = some block ∧ 0 < block.count pointer.strong := by
  have inside := sound.present index pointer slot found points
  refine ⟨_, List.getElem?_eq_getElem inside, ?_⟩
  rw [sound.counts pointer.strong slot _ (List.getElem?_eq_getElem inside)]
  have there := State.pointer_eq_some.mp found
  have counted : 0 < state.pointers.countP (refs pointer.strong slot) := by
    apply List.countP_pos_iff.mpr
    exact ⟨some pointer, List.mem_of_getElem? there, by simp [refs, holds, points]⟩
  exact Int.natCast_pos.mpr counted

theorem State.touch_eq (there : state.blocks[slot]? = some block) (unfreed : block.frees = 0)
    (change : Block → Block) (pointers : List (Option (Pointer Ptr))) :
    State.touch { state with pointers } slot change =
      { state with pointers, blocks := state.blocks.set slot (change block) } := by
  simp [State.touch, there, unfreed]

theorem State.addRef_eq (there : state.blocks[slot]? = some block) (unfreed : block.frees = 0)
    (strong : Bool) (pointers : List (Option (Pointer Ptr))) :
    State.addRef { state with pointers } strong (some slot) =
      { state with pointers, blocks := state.blocks.set slot (block.add strong 1) } := by
  exact State.touch_eq there unfreed _ pointers

theorem Sound.attach (sound : Sound except state) (after : Pointer Ptr)
    (found : state.pointers[index]? = some before) (idle : state.Idle index)
    (loose : ∀ strong slot, refs strong slot before = false) (holds : after.releasing = false)
    (shared : ∀ slot, after.block = some slot → ∃ block owner,
      state.blocks[slot]? = some block ∧ 0 < block.count owner ∧ (after.strong → owner))
    (exempt : ∀ other, except = some other → other = index) :
    Sound none (State.addRef { state with pointers := state.pointers.set index (some after) }
      after.strong after.block) := by
  have kept : ∀ pointer, some after = some pointer → pointer.releasing →
      (none : Option Nat) = some index := by
    rintro pointer same is
    cases same
    cases holds.symm.trans is
  have present : ∀ pointer slot, some after = some pointer → pointer.block = some slot →
      slot < state.blocks.length := by
    rintro pointer slot same points
    cases same
    rcases shared slot points with ⟨block, owner, there, -⟩
    exact (List.getElem?_eq_some_iff.mp there).1
  cases points : after.block with
  | none =>
    refine sound.replace found idle ?_ present kept exempt
    intro strong slot
    rw [loose]
    simp [refs, points]
  | some slot =>
    rcases shared slot points with ⟨block, owner, there, counted, may⟩
    have consistent := sound.consistent slot block there
    rw [State.addRef_eq there (consistent.unfreed counted)]
    refine sound.adjust _ _ found idle there (Block.destroying_add _ _ _) ?_ ?_
      (consistent.share counted may) present kept exempt
    · intro strong
      rw [Block.count_add, loose]
      cases strong <;> cases is : after.strong <;> simp [refs, holds, points, is]
    · intro strong other different
      rw [loose]
      simp [refs, points, Ne.symm different]

theorem Sound.detach (sound : Sound except state) (block' : Block)
    (found : state.pointer index = some pointer) (idle : state.Idle index)
    (holds : pointer.releasing = false) (points : pointer.block = some slot)
    (there : state.blocks[slot]? = some block) (kept : block'.destroying = block.destroying)
    (adjusted : ∀ strong, block'.count strong = (block.add pointer.strong (-1)).count strong)
    (consistent : block'.Consistent) (exempt : ∀ other, except = some other → other = index) :
    Sound (some index) { state with
      pointers := state.pointers.set index (some { pointer with releasing := true })
      blocks := state.blocks.set slot block' } := by
  refine sound.adjust _ _ (State.pointer_eq_some.mp found) idle there kept ?_ ?_ consistent ?_ ?_
    exempt
  · intro strong
    rw [adjusted, Block.count_add]
    cases strong <;> cases is : pointer.strong <;>
      simp [refs, holds, points, is, Int.neg_add_cancel_right]
  · intro strong other different
    simp [refs, points, Ne.symm different]
  · rintro _ other same points'
    cases same
    exact sound.present index pointer other found points'
  · exact fun _ _ _ => rfl

theorem Sound.grow (sound : Sound except state) :
    Sound except { state with pointers := state.pointers ++ [none] } := by
  have same : ∀ index, (state.pointers ++ [none])[index]?.join = state.pointer index := by
    intro index
    rw [State.pointer, List.getElem?_append]
    split
    · rfl
    · rename_i outside
      rw [List.getElem?_eq_none (Nat.not_lt.mp outside)]
      cases index - state.pointers.length <;> simp
  refine ⟨?_, sound.consistent, ?_, ?_, sound.nodup, sound.ordered, sound.destroying, ?_,
    sound.misused⟩
  · intro strong index block there
    rw [sound.counts strong index block there, List.countP_append]
    simp [refs]
  · intro index pointer slot found
    exact sound.present index pointer slot ((same index).symm.trans found)
  · intro frame member
    exact (sound.fits frame member).keep (same _) (fun _ _ _ _ => same _)
      (fun block was destroying => ⟨block, was, destroying⟩)
  · intro index pointer found
    exact sound.releasing index pointer ((same index).symm.trans found)

theorem Sound.allocate (sound : Sound none state) :
    Sound none { state with
      blocks := state.blocks ++ [{ strongCount := 0, destructions := 1, frees := 1 }] } := by
  have oldOrNew : ∀ {index : Nat} {block : Block},
      (state.blocks ++ [({ strongCount := 0, destructions := 1, frees := 1 } : Block)])[index]? =
        some block → state.blocks[index]? = some block ∨ index = state.blocks.length ∧
          block = { strongCount := 0, destructions := 1, frees := 1 } := by
    intro index block there
    rw [List.getElem?_append] at there
    split at there
    · exact .inl there
    · rename_i outside
      rcases List.getElem?_eq_some_iff.mp there with ⟨small, is⟩
      simp only [List.length_singleton, Nat.lt_one_iff] at small
      simp only [small, List.getElem_cons_zero] at is
      exact .inr ⟨by omega, is.symm⟩
  have kept : ∀ {index : Nat} {block : Block}, state.blocks[index]? = some block →
      (state.blocks ++ [({ strongCount := 0, destructions := 1, frees := 1 } : Block)])[index]? =
        some block := by
    intro index block there
    rw [List.getElem?_append_left (List.getElem?_eq_some_iff.mp there).1, there]
  refine ⟨?_, ?_, ?_, ?_, sound.nodup, sound.ordered, ?_, sound.releasing, sound.misused⟩
  · intro strong index block there
    rcases oldOrNew there with old | ⟨rfl, rfl⟩
    · exact sound.counts strong index block old
    · have unshared : state.pointers.countP (refs strong state.blocks.length) = 0 := by
        rw [List.countP_eq_zero]
        rintro (_ | pointer) member
        · simp [refs]
        · rcases List.mem_iff_getElem?.mp member with ⟨index, found⟩
          intro shares
          simp only [refs, Bool.and_eq_true, beq_iff_eq] at shares
          have inside := sound.present index pointer _ (State.pointer_eq_some.mpr found) shares.2
          exact Nat.lt_irrefl _ inside
      rw [unshared]
      cases strong <;> rfl
  · intro index block there
    rcases oldOrNew there with old | ⟨-, rfl⟩
    · exact sound.consistent index block old
    · exact ⟨rfl, rfl, nofun⟩
  · intro index pointer slot found points
    rw [List.length_append]
    exact Nat.lt_add_right _ (sound.present index pointer slot found points)
  · intro frame member
    exact (sound.fits frame member).keep rfl (fun _ _ _ _ => rfl)
      (fun block was destroying => ⟨block, kept was, destroying⟩)
  · intro index block there destroying
    rcases oldOrNew there with old | ⟨-, rfl⟩
    · exact sound.destroying index block old destroying
    · cases destroying

theorem Sound.transfer (sound : Sound except state) (after : Pointer Ptr)
    (found : state.pointers[index]? = some before) (idle : state.Idle index)
    (loose : ∀ strong slot, refs strong slot before = false) (different : origin ≠ index)
    (sourced : state.pointer origin = some source) (spared : state.Idle origin)
    (keeps : source.releasing = false) (holds : after.releasing = false)
    (strong : after.strong = source.strong) (block : after.block = source.block)
    (exempt : ∀ other, except = some other → other = index) :
    Sound none { state with
      pointers := (state.pointers.set index (some after)).set origin
        (some { source with block := none, ptr := none }) } := by
  have shared : ∀ slot, after.block = some slot → ∃ block owner,
      state.blocks[slot]? = some block ∧ 0 < block.count owner ∧ (after.strong → owner) := by
    intro slot points
    rcases sound.shared sourced keeps (block ▸ points) with ⟨held, there, counted⟩
    exact ⟨held, source.strong, there, counted, fun is => strong ▸ is⟩
  have attached := sound.attach after found idle loose holds shared exempt
  have inside : (state.pointers.set index (some after))[origin]? = some (some source) := by
    rw [List.getElem?_set_ne (Ne.symm different)]
    exact State.pointer_eq_some.mp sourced
  have kept : ∀ pointer : Pointer Ptr,
      some { source with block := none, ptr := none } = some pointer →
      pointer.releasing → (none : Option Nat) = some origin := by
    rintro _ same is
    cases same
    cases keeps.symm.trans is
  have absent : ∀ (pointer : Pointer Ptr) (slot : Nat),
      some { source with block := none, ptr := none } = some pointer →
      pointer.block = some slot → slot < state.blocks.length := by
    rintro _ _ same points
    cases same
    cases points
  cases points : source.block with
  | none =>
    rw [block, points] at attached
    refine attached.replace inside spared ?_ absent kept nofun
    simp [refs, points]
  | some slot =>
    rcases sound.shared sourced keeps points with ⟨held, there, counted⟩
    have consistent := sound.consistent slot held there
    rw [block, points, State.addRef_eq there (consistent.unfreed counted), strong] at attached
    have there' : (state.blocks.set slot (held.add source.strong 1))[slot]? =
        some (held.add source.strong 1) := by
      rw [List.getElem?_set_self', there]
      rfl
    have back := attached.adjust _ _ inside spared there' (Block.destroying_add _ _ _).symm ?_ ?_
      consistent (fun pointer slot same is => by
        rw [List.length_set]; exact absent pointer slot same is) kept nofun
    · have restored : (state.blocks.set slot (held.add source.strong 1)).set slot held =
          state.blocks := by
        rw [List.set_set]
        rcases List.getElem?_eq_some_iff.mp there with ⟨small, is⟩
        rw [← is, List.set_getElem_self]
      simp only [restored] at back
      exact back
    · intro kind
      rw [Block.count_add]
      cases kind <;> cases is : source.strong <;> simp [refs, keeps, points, is]
    · intro kind other apart
      simp [refs, points, Ne.symm apart]

/-! ## Destructors -/

theorem Sound.begin (sound : Sound none state) {next : Next Ptr}
    (found : state.pointer index = some pointer)
    (idle : ∀ written ∈ next.writes index, state.Idle written) (strong : pointer.strong)
    (holds : pointer.releasing = false) (points : pointer.block = some slot)
    (there : state.blocks[slot]? = some block) (last : block.strongCount - 1 = 0)
    (source : ∀ origin held ptr, next.source = some (origin, held, ptr) →
      origin ≠ index ∧ ∃ source, state.pointer origin = some source ∧ source.strong ∧
        source.releasing = false ∧ source.block = held ∧ source.ptr = ptr) :
    Sound none { state with
      pointers := state.pointers.set index (some { pointer with releasing := true })
      blocks := state.blocks.set slot { block with
        strongCount := block.strongCount - 1
        destroying := true
        destructions := block.destructions + 1 }
      stack := ⟨slot, index, next⟩ :: state.stack } := by
  have consistent := sound.consistent slot block there
  have alive : block.strongCount ≠ 0 := by omega
  have unopened : slot ∉ state.stack.map Frame.block := by
    intro member
    rcases List.mem_map.mp member with ⟨frame, inside, rfl⟩
    rcases (sound.fits frame inside).block with ⟨other, same, destroying⟩
    rw [there, Option.some.injEq] at same
    subst same
    exact alive (consistent.destroying destroying)
  have opened : (state.blocks.set slot { block with
      strongCount := block.strongCount - 1
      destroying := true
      destructions := block.destructions + 1 })[slot]? = some { block with
        strongCount := block.strongCount - 1
        destroying := true
        destructions := block.destructions + 1 } := by
    rw [List.getElem?_set_self', there]
    rfl
  refine ⟨?_, ?_, ?_, ?_, ?_, ?_, ?_, ?_, sound.misused⟩
  · intro kind other found' inside
    have counted := countP_set (State.pointer_eq_some.mp found)
      (some { pointer with releasing := true }) (refs kind other)
    rcases block_cases there inside with ⟨rfl, rfl⟩ | ⟨different, old⟩
    · have before := sound.counts kind other block there
      cases kind <;> simp [Block.count, refs, strong, holds, points] at counted before ⊢ <;> omega
    · rw [sound.counts kind other found' old]
      have apart : (slot == other) = false := beq_eq_false_iff_ne.mpr (Ne.symm different)
      simp [refs, points, apart] at counted ⊢
      omega
  · intro other found' inside
    rcases block_cases there inside with ⟨rfl, rfl⟩ | ⟨-, old⟩
    · have destructions := consistent.destructions
      have frees := consistent.frees
      rw [if_neg alive] at destructions
      rw [if_neg (fun both => alive both.1)] at frees
      exact ⟨by simp [last, destructions], by simp [frees], fun _ => last⟩
    · exact sound.consistent other found' old
  · intro other pointer' block' found' points'
    rw [List.length_set]
    rcases State.pointer_cases found' with ⟨-, is⟩ | ⟨-, old⟩
    · cases is
      exact sound.present index pointer block' found points'
    · exact sound.present other pointer' block' old points'
  · intro frame member
    rcases List.mem_cons.mp member with rfl | inside
    · refine ⟨⟨_, State.pointer_setPointer found _, strong, rfl, points⟩, ⟨_, opened, rfl⟩, ?_⟩
      intro origin held ptr is
      rcases source origin held ptr is with ⟨different, pointer', there', rest⟩
      exact ⟨different, pointer', (State.pointer_of_set different).trans there', rest⟩
    · rcases idle index next.target_mem_writes frame inside with ⟨target, others⟩
      refine (sound.fits frame inside).keep (State.pointer_of_set target)
        (fun origin held ptr is => State.pointer_of_set (others origin held ptr is)) ?_
      intro old was destroying
      have different : frame.block ≠ slot :=
        fun same => unopened (same ▸ List.mem_map_of_mem inside)
      exact ⟨old, (List.getElem?_set_ne (Ne.symm different)).trans was, destroying⟩
  · exact List.nodup_cons.mpr ⟨unopened, sound.nodup⟩
  · refine List.pairwise_cons.mpr ⟨?_, sound.ordered⟩
    exact fun frame member written writes => idle written writes frame member
  · intro other found' inside destroying
    rcases block_cases there inside with ⟨rfl, -⟩ | ⟨-, old⟩
    · exact List.mem_cons_self
    · exact List.mem_cons_of_mem _ (sound.destroying other found' old destroying)
  · intro other pointer' found' is
    rcases State.pointer_cases found' with ⟨rfl, -⟩ | ⟨-, old⟩
    · exact .inr ⟨_, List.mem_cons_self, rfl⟩
    · rcases sound.releasing other pointer' old is with here | ⟨frame, inside, same⟩
      · cases here
      · exact .inr ⟨frame, List.mem_cons_of_mem _ inside, same⟩

/-- The destructor of the value returns, and the block is freed if nobody needs it. -/
theorem Sound.destroyed (sound : Sound none state) (stack : state.stack = frame :: rest)
    (there : state.blocks[frame.block]? = some block) :
    Sound (some frame.target) { state with
      blocks := state.blocks.set frame.block { block with
        destroying := false
        frees := if block.weakCount = 0 then block.frees + 1 else block.frees }
      stack := rest } := by
  have nodup := sound.nodup
  rw [stack, List.map_cons, List.nodup_cons] at nodup
  have opened := sound.fits frame (stack ▸ List.mem_cons_self)
  have consistent := sound.consistent frame.block block there
  have destroying : block.destroying := by
    rcases opened.block with ⟨other, same, destroying⟩
    rw [there, Option.some.injEq] at same
    exact same ▸ destroying
  have gone := consistent.destroying destroying
  have unfreed : block.frees = 0 := by simp [consistent.frees, destroying]
  have ordered := sound.ordered
  rw [stack, List.pairwise_cons] at ordered
  refine ⟨?_, ?_, ?_, ?_, nodup.2, ordered.2, ?_, ?_, sound.misused⟩
  · intro strong other found inside
    rcases block_cases there inside with ⟨rfl, rfl⟩ | ⟨-, old⟩
    · exact sound.counts strong frame.block block there
    · exact sound.counts strong other found old
  · intro other found inside
    rcases block_cases there inside with ⟨rfl, rfl⟩ | ⟨-, old⟩
    · refine ⟨consistent.destructions, ?_, nofun⟩
      simp [gone, unfreed]
    · exact sound.consistent other found old
  · intro index pointer slot found points
    rw [List.length_set]
    exact sound.present index pointer slot found points
  · intro other member
    have fits := sound.fits other (stack ▸ List.mem_cons_of_mem _ member)
    refine fits.keep rfl (fun _ _ _ _ => rfl) ?_
    intro old was isDestroying
    have different : other.block ≠ frame.block :=
      fun same => nodup.1 (same ▸ List.mem_map_of_mem member)
    exact ⟨old, (List.getElem?_set_ne (Ne.symm different)).trans was, isDestroying⟩
  · intro other found inside isDestroying
    rcases block_cases there inside with ⟨rfl, rfl⟩ | ⟨different, old⟩
    · cases isDestroying
    · have member := sound.destroying other found old isDestroying
      rw [stack, List.map_cons, List.mem_cons] at member
      exact member.resolve_left different
  · intro index pointer found is
    rcases sound.releasing index pointer found is with here | ⟨other, member, same⟩
    · cases here
    · rw [stack, List.mem_cons] at member
      rcases member with rfl | inside
      · exact .inl (congrArg some same)
      · exact .inr ⟨other, inside, same⟩

end CoroRuntime.Rc
