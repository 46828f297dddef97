import CoroRuntime.Rc.Counting

/-! # `Rc` and `Weak` as shared pointers

While the destructor of an old value runs inside an assignment, a `reset()` or a destructor of
an `Rc`, that `Rc` still points to the block it has released. As long as nobody uses it then,
and nobody changes the source of the assignment, the pointers own the values as those of the
standard library do.
-/

namespace CoroRuntime.Rc

open Foundation

variable {Ptr : Type u} {state next : State Ptr} {slot : Nat}

/-! ## After a release -/

structure Next.Ready (state : State Ptr) (index : Nat) (target : Pointer Ptr) (next : Next Ptr) :
    Prop where
  idle : ∀ written ∈ next.writes index, state.Idle written
  source : ∀ origin block ptr, next.source = some (origin, block, ptr) →
    origin ≠ index ∧ ∃ source, state.pointer origin = some source ∧
      (target.strong → source.strong) ∧ source.releasing = false ∧ source.block = block ∧
      source.ptr = ptr
  moved : ∀ origin block ptr source, next = .move origin block ptr →
    state.pointer origin = some source → target.strong = source.strong

theorem Next.Ready.keep {step : Next Ptr} (ready : step.Ready state index target)
    (stack : next.stack = state.stack)
    (pointers : ∀ other, other ≠ index → next.pointer other = state.pointer other) :
    step.Ready next index target where
  idle written writes frame member := ready.idle written writes frame (stack ▸ member)
  source origin block ptr is := by
    rcases ready.source origin block ptr is with ⟨different, source, found, rest⟩
    exact ⟨different, source, (pointers origin different).trans found, rest⟩
  moved origin block ptr source is found := by
    subst is
    rcases ready.source origin block ptr rfl with ⟨different, -⟩
    exact ready.moved origin block ptr source rfl ((pointers origin different).symm.trans found)

theorem Sound.proceed (sound : Sound except state) (found : state.pointer index = some target)
    (loose : ∀ strong slot, refs strong slot (some target) = false)
    (ready : step.Ready state index target)
    (exempt : ∀ other, except = some other → other = index) :
    Sound none (state.proceed index step) := by
  have there := State.pointer_eq_some.mp found
  have idle := ready.idle index step.target_mem_writes
  cases step with
  | copy origin block ptr =>
    rcases ready.source origin block ptr rfl with ⟨-, source, sourced, may, keeps, -⟩
    simp only [State.proceed, found, sourced]
    refine sound.attach { target with
      block := source.block, ptr := source.ptr, releasing := false }
      there idle loose rfl ?_ exempt
    intro slot points
    rcases sound.shared sourced keeps points with ⟨held, inside, counted⟩
    exact ⟨held, source.strong, inside, counted, may⟩
  | move origin block ptr =>
    rcases ready.source origin block ptr rfl with ⟨different, source, sourced, -, keeps, -⟩
    have strong := ready.moved origin block ptr source rfl sourced
    simp only [State.proceed, found, sourced]
    exact sound.transfer _ there idle loose different sourced
      (ready.idle origin (by simp [Next.writes])) keeps rfl strong rfl exempt
  | clear =>
    simp only [State.proceed, found]
    refine sound.replace there idle (fun strong slot => by rw [loose]; simp [refs]) ?_ ?_ exempt
    · rintro _ _ same points
      cases same
      cases points
    · rintro _ same is
      cases same
      cases is
  | destroy =>
    simp only [State.proceed, found]
    exact sound.replace there idle (fun strong slot => (loose strong slot).symm) (by simp) (by simp)
      exempt

/-- A block after `release_weak()`, and `delete` if it says so. -/
def Block.unshareWeak (block : Block) : Block :=
  { block with
    weakCount := block.weakCount - 1
    frees := if !block.destroying && block.weakCount - 1 = 0 && block.strongCount = 0 then
      block.frees + 1 else block.frees }

theorem Block.Consistent.unshareStrong {block : Block} (consistent : block.Consistent)
    (alive : 0 < block.strongCount) (more : block.strongCount - 1 ≠ 0) :
    ({ block with strongCount := block.strongCount - 1 } : Block).Consistent := by
  rcases consistent with ⟨destructions, frees, destroying⟩
  constructor <;> grind -ring -linarith

theorem Block.Consistent.unshareWeak {block : Block} (consistent : block.Consistent)
    (counted : 0 < block.weakCount) :
    block.unshareWeak.Consistent := by
  rcases consistent with ⟨destructions, frees, destroying⟩
  constructor <;> grind -ring -linarith [Block.unshareWeak]

namespace State

variable {index : Nat} {pointer : Pointer Ptr} {step : Next Ptr} {block : Block}

theorem release_last (strong : pointer.strong) (points : pointer.block = some slot)
    (there : state.blocks[slot]? = some block) (unfreed : block.frees = 0)
    (last : block.strongCount - 1 = 0) :
    state.release index pointer step = { state with
      pointers := state.pointers.set index (some { pointer with releasing := true })
      blocks := state.blocks.set slot { block with
        strongCount := block.strongCount - 1
        destroying := true
        destructions := block.destructions + 1 }
      stack := ⟨slot, index, step⟩ :: state.stack } := by
  simp [release, strong, points, there, last, setPointer, touch_eq there unfreed]

theorem release_strong (strong : pointer.strong) (points : pointer.block = some slot)
    (there : state.blocks[slot]? = some block) (unfreed : block.frees = 0)
    (more : block.strongCount - 1 ≠ 0) :
    state.release index pointer step = State.proceed { state with
      pointers := state.pointers.set index (some { pointer with releasing := true })
      blocks := state.blocks.set slot { block with strongCount := block.strongCount - 1 } }
      index step := by
  simp [release, strong, points, there, more, setPointer, touch_eq there unfreed]

theorem release_weak (strong : pointer.strong = false) (points : pointer.block = some slot)
    (there : state.blocks[slot]? = some block) (unfreed : block.frees = 0) :
    state.release index pointer step = State.proceed { state with
      pointers := state.pointers.set index (some { pointer with releasing := true })
      blocks := state.blocks.set slot block.unshareWeak } index step := by
  have released : ∀ pointers, releaseWeak { state with pointers } slot =
      { state with pointers, blocks := state.blocks.set slot block.unshareWeak } := by
    intro pointers
    have inside := (List.getElem?_eq_some_iff.mp there).1
    simp only [releaseWeak, there, touch_eq there unfreed, Block.unshareWeak]
    split <;> simp_all [State.free, touch]
  simp [release, strong, points, setPointer, released]

end State

section

variable (sound : Sound none state)

include sound

theorem Sound.release (found : state.pointer index = some pointer)
    (holds : pointer.releasing = false) (ready : step.Ready state index pointer) :
    Sound none (state.release index pointer step) := by
  have idle := ready.idle index step.target_mem_writes
  cases points : pointer.block with
  | none =>
    simp only [State.release, points]
    refine sound.proceed found ?_ ready nofun
    simp [refs, points]
  | some slot =>
    rcases sound.shared found holds points with ⟨block, there, counted⟩
    have consistent := sound.consistent slot block there
    have unfreed := consistent.unfreed counted
    have kept : step.Ready state index { pointer with releasing := true } :=
      ⟨ready.idle, ready.source, ready.moved⟩
    -- Only the last strong pointer does not go on at once.
    have after : ∀ block' : Block, block'.destroying = block.destroying →
        (∀ strong, block'.count strong = (block.add pointer.strong (-1)).count strong) →
        block'.Consistent → Sound none (State.proceed { state with
          pointers := state.pointers.set index (some { pointer with releasing := true })
          blocks := state.blocks.set slot block' } index step) := by
      intro block' same counts consistent'
      have detached := sound.detach block' found idle holds points there same counts
        consistent' nofun
      refine detached.proceed (State.pointer_setPointer found _) (by simp [refs]) ?_ ?_
      · exact kept.keep rfl fun other different => State.pointer_of_set different
      · exact fun other same => (Option.some.inj same).symm
    cases strong : pointer.strong with
    | true =>
      rw [strong] at counted
      by_cases last : block.strongCount - 1 = 0
      · rw [State.release_last strong points there unfreed last]
        refine sound.begin found ready.idle strong holds points there last ?_
        intro origin held ptr is
        rcases ready.source origin held ptr is with ⟨different, source, sourced, may, rest⟩
        exact ⟨different, source, sourced, may strong, rest⟩
      · rw [State.release_strong strong points there unfreed last]
        refine after _ rfl ?_ (consistent.unshareStrong counted last)
        simp [Block.count, Block.add, strong, Int.sub_eq_add_neg]
    | false =>
      rw [strong] at counted
      rw [State.release_weak strong points there unfreed]
      refine after _ rfl ?_ (consistent.unshareWeak counted)
      simp [Block.count, Block.add, Block.unshareWeak, strong, Int.sub_eq_add_neg]

/-! ## Constructors -/

theorem State.Idle.length : state.Idle state.pointers.length := by
  have inside : ∀ {index : Nat} {pointer : Pointer Ptr}, state.pointer index = some pointer →
      index ≠ state.pointers.length := by
    rintro index pointer found rfl
    exact Nat.lt_irrefl _ (List.getElem?_eq_some_iff.mp (State.pointer_eq_some.mp found)).1
  intro frame member
  have fits := sound.fits frame member
  rcases fits.target with ⟨target, found, -⟩
  refine ⟨inside found, ?_⟩
  intro origin block ptr is
  rcases fits.source origin block ptr is with ⟨-, source, sourced, -⟩
  exact inside sourced

omit sound in
theorem set_length_append (items : List α) (old new : α) :
    (items ++ [old]).set items.length new = items ++ [new] := by
  simp

theorem Sound.create (pointer : Pointer Ptr) (holds : pointer.releasing = false)
    (shared : ∀ slot, pointer.block = some slot → ∃ block owner,
      state.blocks[slot]? = some block ∧ 0 < block.count owner ∧ (pointer.strong → owner)) :
    Sound none ((state.push pointer).addRef pointer.strong pointer.block) := by
  have absent : (state.pointers ++ [none])[state.pointers.length]? = some none := by simp
  have attached := sound.grow.attach pointer absent (State.Idle.length sound) (fun _ _ => rfl)
    holds shared nofun
  simp only [set_length_append] at attached
  exact attached

theorem Sound.makeRc (ptr : Ptr) (home : Option Nat) :
    Sound none (State.push { state with blocks := state.blocks ++ [({} : Block)] }
      { strong := true, block := some state.blocks.length, ptr := some ptr, home }) := by
  have absent : (state.pointers ++ [none])[state.pointers.length]? = some none := by simp
  have there : (state.blocks ++ [({ strongCount := 0, destructions := 1, frees := 1 } : Block)])[
      state.blocks.length]? = some { strongCount := 0, destructions := 1, frees := 1 } := by
    simp
  have attached : Sound none _ := sound.allocate.grow.adjust
    (some { strong := true, block := some state.blocks.length, ptr := some ptr, home }) {}
    absent (State.Idle.length sound) there rfl ?_ ?_ ⟨rfl, rfl, nofun⟩ ?_ ?_ nofun
  · simp only [set_length_append] at attached
    exact attached
  · intro strong
    cases strong <;> simp [refs, Block.count]
  · intro strong other different
    simp [refs, Ne.symm different]
  · rintro _ _ same points
    cases same
    cases points
    simp
  · rintro _ same is
    cases same
    cases is

theorem Sound.moveConstruct (sourced : state.pointer origin = some source)
    (keeps : source.releasing = false) (spared : state.Idle origin) (home : Option Nat) :
    Sound none ((state.setPointer origin (some { source with block := none, ptr := none })).push
      { strong := source.strong, block := source.block, ptr := source.ptr, home }) := by
  have absent : (state.pointers ++ [none])[state.pointers.length]? = some none := by simp
  have inside := (List.getElem?_eq_some_iff.mp (State.pointer_eq_some.mp sourced)).1
  have still : State.pointer { state with pointers := state.pointers ++ [none] } origin =
      some source := by
    rw [State.pointer, List.getElem?_append_left inside]
    exact sourced
  have moved := sound.grow.transfer
    { strong := source.strong, block := source.block, ptr := source.ptr, home } absent
    (State.Idle.length sound) (fun _ _ => rfl) (Nat.ne_of_lt inside) still spared keeps rfl rfl
    rfl (by simp)
  simp only [set_length_append, List.set_append_left _ _ inside] at moved
  exact moved

omit sound in
theorem State.lock_block {pointer : Pointer Ptr}
    (points : (state.lock pointer home).block = some slot) :
    ∃ block, state.blocks[slot]? = some block ∧ 0 < block.strongCount := by
  rw [State.lock] at points
  split at points
  · rename_i block there
    split at points
    · rename_i alive
      simp only at points
      rw [points] at there
      exact ⟨block, there, alive⟩
    · cases points
  · cases points

omit sound in
theorem State.lock_strong (pointer : Pointer Ptr) (home : Option Nat) :
    (state.lock pointer home).strong ∧ (state.lock pointer home).releasing = false := by
  rw [State.lock]
  split
  · split <;> exact ⟨rfl, rfl⟩
  · exact ⟨rfl, rfl⟩

theorem Sound.read (found : state.pointer index = some pointer) (keeps : pointer.releasing = false)
    (points : pointer.block = some slot) : state.touch slot id = state := by
  rcases sound.shared found keeps points with ⟨block, there, counted⟩
  have unfreed := (sound.consistent slot block there).unfreed counted
  rcases List.getElem?_eq_some_iff.mp there with ⟨small, is⟩
  subst is
  simp [State.touch, there, unfreed]

def Block.destroyed (block : Block) : Block :=
  { block with
    destroying := false
    frees := if block.weakCount = 0 then block.frees + 1 else block.frees }

omit sound in
theorem Frame.Fits.finish (fits : frame.Fits state) (stack : state.stack = frame :: rest)
    {block : Block} (there : state.blocks[frame.block]? = some block) (unfreed : block.frees = 0)
    (finished : state.finish = some next) :
    next = State.proceed { state with
      blocks := state.blocks.set frame.block block.destroyed
      stack := rest } frame.target frame.next := by
  rcases fits.target with ⟨target, found, -, -, points⟩
  have touched : (state.touch frame.block fun block => { block with destroying := false }) =
      { state with blocks := state.blocks.set frame.block { block with destroying := false } } :=
    State.touch_eq there unfreed _ state.pointers
  have inside := (List.getElem?_eq_some_iff.mp there).1
  have same : ∀ blocks, State.pointer { state with blocks, stack := rest } frame.target =
    some target := fun _ => found
  simp only [State.finish, stack, touched, there, same] at finished
  split at finished
  · split at finished
    · rename_i unshared
      cases finished
      simp [points, State.free, State.touch, unfreed, unshared, Block.destroyed, inside]
    · rename_i counted
      cases finished
      simp [counted, Block.destroyed]
  · cases finished

omit sound in
theorem Frame.Fits.ready {frame : Frame Ptr} {target : Pointer Ptr} (fits : frame.Fits state)
    (found : state.pointer frame.target = some target)
    (idle : ∀ written ∈ frame.next.writes frame.target, ∀ outer ∈ stack, outer.Spares written) :
    frame.next.Ready { state with blocks, stack } frame.target target where
  idle := idle
  source origin block ptr is := by
    rcases fits.source origin block ptr is with ⟨different, source, sourced, strong, rest⟩
    exact ⟨different, source, sourced, fun _ => strong, rest⟩
  moved origin block ptr source is sourced := by
    rcases fits.target with ⟨target', found', strong, -⟩
    rcases fits.source origin block ptr (by rw [is]; rfl) with ⟨-, source', from', strong', -⟩
    cases found.symm.trans found'
    cases Eq.trans (Eq.symm sourced) from'
    rw [strong, strong']

/-- The pointer for which the destructor was run goes on, in a state with one frame less. -/
theorem Sound.finishes (stack : state.stack = frame :: rest) (finished : state.finish = some next) :
    ∃ (ended : State Ptr) (target : Pointer Ptr), Sound (some frame.target) ended ∧
      ended.pointer frame.target = some target ∧ target.releasing ∧
      frame.next.Ready ended frame.target target ∧
      next = ended.proceed frame.target frame.next := by
  have fits := sound.fits frame (stack ▸ List.mem_cons_self)
  have ordered := sound.ordered
  rw [stack, List.pairwise_cons] at ordered
  rcases fits.target with ⟨target, found, -, releasing, -⟩
  rcases fits.block with ⟨block, there, destroying⟩
  have unfreed : block.frees = 0 := by
    simp [(sound.consistent frame.block block there).frees, destroying]
  refine ⟨_, target, sound.destroyed stack there, found, releasing, ?_,
    fits.finish stack there unfreed finished⟩
  exact fits.ready found fun written writes outer member => ordered.1 outer member written writes

theorem Sound.finish (finished : state.finish = some next) : Sound none next := by
  cases stack : state.stack with
  | nil => simp [State.finish, stack] at finished
  | cons frame rest =>
    rcases sound.finishes stack finished with ⟨ended, target, kept, found, releasing, ready, rfl⟩
    refine kept.proceed found (by simp [refs, releasing]) ready ?_
    exact fun other same => (Option.some.inj same).symm

end

/-! ## Moves -/

def Move.reads : Move Ptr → List Nat
  | .construct _ source _ _ | .lock source _ | .assign _ source => [source]
  | .empty _ _ | .makeRc _ _ | .moveConstruct _ _ | .moveAssign _ _ | .reset _ | .drop _
  | .finish => []

def Move.writes : Move Ptr → List Nat
  | .moveConstruct source _ => [source]
  | .assign target _ | .reset target | .drop target => [target]
  | .moveAssign target source => [target, source]
  | .empty _ _ | .makeRc _ _ | .construct _ _ _ _ | .lock _ _ | .finish => []

/-- Nobody uses a pointer whose old value is being destroyed by an assignment to it, its
`reset()` or its destructor, and nobody changes the source of that assignment. -/
def undisturbed (state : State Ptr) (move : Move Ptr) : Prop :=
  ∀ frame ∈ state.stack, frame.target ∉ move.reads ∧ frame.target ∉ move.writes ∧
    ∀ source ∈ frame.next.source, source.1 ∉ move.writes

instance (state : State Ptr) (move : Move Ptr) : Decidable (undisturbed state move) :=
  inferInstanceAs (Decidable (∀ frame ∈ state.stack, _ ∧ _ ∧ _))

section Undisturbed

variable {move : Move Ptr} {index : Nat}

theorem undisturbed.idle (calm : undisturbed state move) (writes : index ∈ move.writes) :
    state.Idle index := by
  intro frame member
  rcases calm frame member with ⟨-, target, sources⟩
  refine ⟨?_, ?_⟩
  · rintro rfl
    exact target writes
  · rintro origin block ptr is rfl
    exact sources _ is writes

theorem Sound.keeps (sound : Sound none state) (calm : undisturbed state move)
    (found : state.pointer index = some pointer) (uses : index ∈ move.reads ∨ index ∈ move.writes) :
    pointer.releasing = false := by
  by_contra releasing
  rcases sound.releasing index pointer found (by simpa using releasing) with
    here | ⟨frame, member, rfl⟩
  · cases here
  · rcases calm frame member with ⟨reads, writes, -⟩
    exact uses.elim reads writes

end Undisturbed

/-- What an assignment, `reset()` or destructor does after its `release()`. -/
def State.task (state : State Ptr) : Move Ptr → Option (Nat × Next Ptr)
  | .assign index origin =>
    if index = origin then none
    else (state.pointer origin).map fun source => (index, .copy origin source.block source.ptr)
  | .moveAssign index origin =>
    if index = origin then none
    else (state.pointer origin).map fun source => (index, .move origin source.block source.ptr)
  | .reset index => some (index, .clear)
  | .drop index => some (index, .destroy)
  | .finish => state.stack.head?.map fun frame => (frame.target, frame.next)
  | .empty _ _ | .makeRc _ _ | .construct _ _ _ _ | .moveConstruct _ _ | .lock _ _ => none

/-- The move releases the pointer, and what comes after that can be done. -/
structure Releases (state : State Ptr) (index : Nat) (pointer : Pointer Ptr) (step : Next Ptr)
    (next : State Ptr) : Prop where
  found : state.pointer index = some pointer
  keeps : pointer.releasing = false
  ready : step.Ready state index pointer
  is : next = state.release index pointer step

theorem Sound.releases (sound : Sound none state) (calm : undisturbed state move)
    (stepped : state.step move = some next) (task : state.task move = some (index, step))
    (other : move ≠ .finish) : ∃ pointer, Releases state index pointer step next := by
  have keeps : ∀ {index pointer}, state.pointer index = some pointer →
      (index ∈ move.reads ∨ index ∈ move.writes) → pointer.releasing = false :=
    sound.keeps calm
  have idle : ∀ written ∈ move.writes, state.Idle written := fun _ writes => calm.idle writes
  cases move with simp only [State.task, State.step] at task stepped
  | assign target origin =>
    split at task
    · cases task
    · rename_i different
      rcases Option.map_eq_some_iff.mp task with ⟨source, sourced, is⟩
      cases is
      split at stepped
      · rename_i pointer source' found from'
        cases sourced.symm.trans from'
        rw [if_neg different] at stepped
        rcases of_guard stepped with ⟨may, rfl⟩
        refine ⟨pointer, found, keeps found (by simp [Move.writes]), ⟨idle, ?_, nofun⟩, rfl⟩
        rintro _ _ _ is
        cases is
        refine ⟨Ne.symm different, source, sourced, ?_, keeps sourced (by simp [Move.reads]),
          rfl, rfl⟩
        intro strong
        simpa [strong] using may
      · cases stepped
  | moveAssign target origin =>
    split at task
    · cases task
    · rename_i different
      rcases Option.map_eq_some_iff.mp task with ⟨source, sourced, is⟩
      cases is
      split at stepped
      · rename_i pointer source' found from'
        cases sourced.symm.trans from'
        rw [if_neg different] at stepped
        rcases of_guard stepped with ⟨alike, rfl⟩
        refine ⟨pointer, found, keeps found (by simp [Move.writes]), ⟨idle, ?_, ?_⟩, rfl⟩
        · rintro _ _ _ is
          cases is
          exact ⟨Ne.symm different, source, sourced, fun strong => alike ▸ strong,
            keeps sourced (by simp [Move.writes]), rfl, rfl⟩
        · rintro _ _ _ source' is from'
          cases is
          cases sourced.symm.trans from'
          exact alike
      · cases stepped
  | reset target | drop target =>
    cases task
    split at stepped <;> cases stepped
    rename_i pointer found
    exact ⟨pointer, found, keeps found (by simp [Move.writes]), ⟨idle, nofun, nofun⟩, rfl⟩
  | finish => exact absurd rfl other
  | empty | makeRc | construct | moveConstruct | lock => cases task

theorem State.assign_self (assigns : move = .assign index origin ∨ move = .moveAssign index origin)
    (task : state.task move = none) (stepped : state.step move = some next) : next = state := by
  rcases assigns with rfl | rfl
  all_goals
    simp only [State.task, State.step] at task stepped
    split at stepped
    · rename_i sourced
      split at task
      · rename_i same
        rw [if_pos same] at stepped
        exact (Option.some.inj stepped).symm
      · rw [sourced] at task
        cases task
    · cases stepped

theorem Sound.step (sound : Sound none state) (calm : undisturbed state move)
    (stepped : state.step move = some next) : Sound none next := by
  by_cases finishes : move = .finish
  · subst finishes
    exact sound.finish stepped
  cases task : state.task move with
  | some called =>
    rcases sound.releases calm stepped task finishes with ⟨pointer, releases⟩
    rw [releases.is]
    exact sound.release releases.found releases.keeps releases.ready
  | none =>
  cases move with simp only [State.step] at stepped
  | empty strong home =>
    rcases of_guard stepped with ⟨_, rfl⟩
    exact sound.create { strong, home } rfl nofun
  | makeRc ptr home =>
    rcases of_guard stepped with ⟨_, rfl⟩
    exact sound.makeRc ptr home
  | construct strong origin aliasing home =>
    split at stepped
    · rename_i source sourced
      split at stepped
      · rename_i may
        simp only [Bool.and_eq_true, Bool.or_eq_true, Bool.not_eq_true'] at may
        cases stepped
        have keeps := sound.keeps calm sourced (by simp [Move.reads])
        refine sound.create
          { strong, block := source.block, ptr := aliasing.or source.ptr, home } rfl ?_
        intro slot points
        rcases sound.shared sourced keeps points with ⟨block, there, counted⟩
        refine ⟨block, source.strong, there, counted, fun is => may.2.resolve_left ?_⟩
        exact fun weak => nomatch (is.symm.trans weak)
      · cases stepped
    · cases stepped
  | moveConstruct origin home =>
    split at stepped
    · rename_i source sourced
      rcases of_guard stepped with ⟨_, rfl⟩
      exact sound.moveConstruct sourced (sound.keeps calm sourced (by simp [Move.writes]))
        (calm.idle (by simp [Move.writes])) home
    · cases stepped
  | lock origin home =>
    split at stepped
    · rename_i source sourced
      split at stepped
      · have keeps := sound.keeps calm sourced (by simp [Move.reads])
        rcases state.lock_strong source home with ⟨strong, fresh⟩
        have created := sound.create (state.lock source home) fresh fun slot points => by
          rcases State.lock_block points with ⟨block, there, alive⟩
          exact ⟨block, true, there, alive, fun _ => rfl⟩
        rw [strong] at created
        cases stepped
        split
        · rename_i points
          rw [sound.read sourced keeps points]
          exact created
        · exact created
      · cases stepped
    · cases stepped
  | assign index origin =>
    rw [State.assign_self (.inl rfl) task stepped]
    exact sound
  | moveAssign index origin =>
    rw [State.assign_self (.inr rfl) task stepped]
    exact sound
  | reset index => cases task
  | drop index => cases task
  | finish => exact absurd rfl finishes

/-! ## Shared pointers -/

/-- The pointer is alive and its value is not being given up. -/
def State.Holds (state : State Ptr) (strong : Bool) (block : Nat) : Prop :=
  ∃ index pointer, state.pointer index = some pointer ∧ pointer.strong = strong ∧
    pointer.block = some block ∧ ∀ frame ∈ state.stack, frame.target ≠ index

/-- The assignment, `reset()` or destructor has done what it is for. An assignment gives the
target what the source held when it was called. -/
def Next.Done (state : State Ptr) (index : Nat) : Next Ptr → Prop
  | .copy _ block ptr =>
    ∃ target, state.pointer index = some target ∧ target.block = block ∧ target.ptr = ptr
  | .move origin block ptr =>
    (∃ target, state.pointer index = some target ∧ target.block = block ∧ target.ptr = ptr) ∧
    ∃ source, state.pointer origin = some source ∧ source.block = none ∧ source.ptr = none
  | .clear =>
    ∃ target, state.pointer index = some target ∧ target.block = none ∧ target.ptr = none
  | .destroy => state.pointer index = none

structure Owned (state : State Ptr) : Prop where
  /-- No pointer object is used after its destruction and no block after it was freed. -/
  used : state.misused = false
  /-- A value is destroyed once, when its last strong pointer goes. -/
  destroyed : ∀ (index : Nat) block, state.blocks[index]? = some block →
    (state.Holds true index → block.destructions = 0) ∧
    (¬state.Holds true index → block.destructions = 1)
  /-- A block is freed once, when its last pointer is gone and the destructor has returned. -/
  freed : ∀ (index : Nat) block, state.blocks[index]? = some block →
    let needed := state.Holds true index ∨ state.Holds false index ∨
      ∃ frame ∈ state.stack, frame.block = index
    (needed → block.frees = 0) ∧ (¬needed → block.frees = 1)
  /-- `lock()` succeeds as long as there is a strong pointer. -/
  locks : ∀ index weak home, state.pointer index = some weak → weak.strong = false →
    (state.lock weak home =
        { strong := true, block := weak.block, ptr := weak.ptr, home } ∧
      ∃ block, weak.block = some block ∧ state.Holds true block) ∨
    (state.lock weak home = { strong := true, home } ∧
      ∀ block, weak.block = some block → ¬state.Holds true block)
  /-- What is called is done when it returns. -/
  done : ∀ move next index step, undisturbed state move → state.step move = some next →
    state.task move = some (index, step) →
    (∃ block, next.stack = ⟨block, index, step⟩ :: state.stack) ∨ step.Done next index

theorem State.pointer_addRef (strong : Bool) (block : Option Nat) (index : Nat) :
    (state.addRef strong block).pointer index = state.pointer index := by
  cases block with
  | none => rfl
  | some slot =>
    rw [State.addRef, State.touch]
    split <;> rfl

theorem Next.Ready.done {step : Next Ptr} (ready : step.Ready state index target)
    (found : state.pointer index = some target) : step.Done (state.proceed index step) index := by
  cases step with
  | copy origin block ptr =>
    rcases ready.source origin block ptr rfl with ⟨-, source, sourced, -, -, held⟩
    simp only [State.proceed, found, sourced, Next.Done]
    exact ⟨_, (State.pointer_addRef _ _ _).trans (State.pointer_setPointer found _), held⟩
  | move origin block ptr =>
    rcases ready.source origin block ptr rfl with ⟨different, source, sourced, -, -, held⟩
    simp only [State.proceed, found, sourced, Next.Done]
    have still : ∀ new, (state.setPointer index new).pointer origin = some source :=
      fun _ => (State.pointer_of_set different).trans sourced
    refine ⟨⟨{ target with block := source.block, ptr := source.ptr, releasing := false }, ?_,
      held⟩, ⟨_, State.pointer_setPointer (still _) _, rfl, rfl⟩⟩
    exact (State.pointer_of_set (Ne.symm different)).trans (State.pointer_setPointer found _)
  | clear =>
    simp only [State.proceed, found, Next.Done]
    exact ⟨_, State.pointer_setPointer found _, rfl, rfl⟩
  | destroy =>
    simp only [State.proceed, found, Next.Done]
    exact State.pointer_setPointer found _

section

variable (sound : Sound none state)

include sound

theorem Releases.done (releases : Releases state index pointer step next) :
    (∃ block, next.stack = ⟨block, index, step⟩ :: state.stack) ∨ step.Done next index := by
  rcases releases with ⟨found, keeps, ready, rfl⟩
  cases points : pointer.block with
  | none =>
    simp only [State.release, points]
    exact .inr (ready.done found)
  | some slot =>
    rcases sound.shared found keeps points with ⟨block, there, counted⟩
    have unfreed := (sound.consistent slot block there).unfreed counted
    have still : step.Ready state index { pointer with releasing := true } :=
      ⟨ready.idle, ready.source, ready.moved⟩
    have after : ∀ blocks, step.Done (State.proceed { state with
        pointers := state.pointers.set index (some { pointer with releasing := true })
        blocks } index step) index := by
      intro blocks
      have kept : step.Ready { state with
          pointers := state.pointers.set index (some { pointer with releasing := true })
          blocks } index { pointer with releasing := true } :=
        still.keep rfl fun other different => State.pointer_of_set different
      exact kept.done (State.pointer_setPointer found _)
    cases strong : pointer.strong with
    | true =>
      by_cases last : block.strongCount - 1 = 0
      · rw [State.release_last strong points there unfreed last]
        exact .inl ⟨slot, rfl⟩
      · rw [State.release_strong strong points there unfreed last]
        exact .inr (after _)
    | false =>
      rw [State.release_weak strong points there unfreed]
      exact .inr (after _)

theorem Sound.holds_iff (there : state.blocks[index]? = some block) (strong : Bool) :
    0 < block.count strong ↔ state.Holds strong index := by
  rw [sound.counts strong index block there, Int.natCast_pos, List.countP_pos_iff]
  constructor
  · rintro ⟨_ | pointer, member, shares⟩
    · cases shares
    · rcases List.mem_iff_getElem?.mp member with ⟨slot, found⟩
      simp only [refs, Bool.and_eq_true, beq_iff_eq, Bool.not_eq_true'] at shares
      have found' := State.pointer_eq_some.mpr found
      refine ⟨slot, pointer, found', shares.1.1, shares.2, ?_⟩
      rintro frame inside rfl
      rcases (sound.fits frame inside).target with ⟨target, same, -, releasing, -⟩
      cases found'.symm.trans same
      cases shares.1.2.symm.trans releasing
  · rintro ⟨slot, pointer, found, is, points, spared⟩
    refine ⟨some pointer, List.mem_of_getElem? (State.pointer_eq_some.mp found), ?_⟩
    have keeps : pointer.releasing = false := by
      by_contra releasing
      rcases sound.releasing slot pointer found (by simpa using releasing) with
        here | ⟨frame, member, same⟩
      · cases here
      · exact spared frame member same
    simp [refs, is, points, keeps]

theorem Sound.destroying_iff (there : state.blocks[index]? = some block) :
    block.destroying ↔ ∃ frame ∈ state.stack, frame.block = index := by
  constructor
  · exact fun destroying => List.mem_map.mp (sound.destroying index block there destroying)
  · rintro ⟨frame, member, rfl⟩
    rcases (sound.fits frame member).block with ⟨block', there', destroying⟩
    cases there.symm.trans there'
    exact destroying

theorem Sound.count_nonneg {index : Nat} (there : state.blocks[index]? = some block)
    (strong : Bool) : 0 ≤ block.count strong := by
  rw [sound.counts strong index block there]
  exact Int.natCast_nonneg _

theorem Sound.owned : Owned state where
  used := sound.misused
  destroyed index block there := by
    have consistent := sound.consistent index block there
    have strong := sound.holds_iff there true
    have nonneg := sound.count_nonneg there true
    simp only [Block.count, if_true] at strong nonneg
    rw [consistent.destructions, ← strong]
    grind -ring -linarith
  freed index block there := by
    have consistent := sound.consistent index block there
    have strong := sound.holds_iff there true
    have weak := sound.holds_iff there false
    have strongNonneg := sound.count_nonneg there true
    have weakNonneg := sound.count_nonneg there false
    simp only [Block.count, if_true, Bool.false_eq_true, if_false]
      at strong weak strongNonneg weakNonneg
    rw [consistent.frees, ← strong, ← weak, ← sound.destroying_iff there]
    grind -ring -linarith
  locks index weak home found is := by
    cases points : weak.block with
    | none => exact .inr ⟨by simp [State.lock, points], by simp⟩
    | some slot =>
      have inside := sound.present index weak slot found points
      have there := List.getElem?_eq_getElem inside
      have strong := sound.holds_iff there true
      simp only [Block.count, if_true] at strong
      by_cases alive : 0 < state.blocks[slot].strongCount
      · exact .inl ⟨by simp [State.lock, points, there, alive], slot, rfl, strong.mp alive⟩
      · refine .inr ⟨by simp [State.lock, points, there, alive], ?_⟩
        rintro block same holds
        cases same
        exact alive (strong.mpr holds)
  done move next index step calm stepped task := by
    by_cases finishes : move = .finish
    · subst finishes
      cases stack : state.stack with
      | nil => simp [State.task, stack] at task
      | cons frame rest =>
        simp only [State.task, stack, List.head?_cons, Option.map_some] at task
        cases task
        rcases sound.finishes stack stepped with ⟨ended, target, -, found, -, ready, rfl⟩
        exact .inr (ready.done found)
    · rcases sound.releases calm stepped task finishes with ⟨pointer, releases⟩
      exact releases.done sound

end

theorem Sound.initial : Sound none (rcMachine Ptr).initial :=
  ⟨by simp [rcMachine], by simp [rcMachine], by simp [rcMachine, State.pointer],
    by simp [rcMachine], .nil, .nil, by simp [rcMachine], by simp [rcMachine, State.pointer], rfl⟩

theorem rc_owns_values (reached : (rcMachine Ptr).Reaches undisturbed state) : Owned state := by
  have sound : Sound none state := by
    refine reached.invariant _ ?_ .initial
    exact fun state move next sound calm stepped => sound.step calm stepped
  exact sound.owned

/-- The counts of a block are the numbers of `Rc` and `Weak` objects that share it. -/
theorem counts_exact (reached : (rcMachine Ptr).Reaches undisturbed state)
    (found : state.blocks[index]? = some block) :
    block.strongCount = (state.pointers.countP (refs true index) : Int) ∧
    block.weakCount = (state.pointers.countP (refs false index) : Int) := by
  have sound : Sound none state := by
    refine reached.invariant _ ?_ .initial
    exact fun state move next sound calm stepped => sound.step calm stepped
  exact ⟨sound.counts true index block found, sound.counts false index block found⟩

theorem counts_exact_weak : ∃ state : State Nat, (rcMachine Nat).Reaches undisturbed state ∧
    state.blocks.map (·.destructions) = [0, 1] ∧ ∃ block, state.blocks[0]? = some block ∧
      block.weakCount = 1 ∧ block.weakCount = (state.pointers.countP (refs false 0) : Int) :=
  exists_of_exec
    [.makeRc 7 none, .construct false 0 none none, .makeRc 8 none, .assign 2 0, .finish, .drop 0]
    (by decide +kernel) fun reached =>
      ⟨by decide +kernel, _, rfl, by decide +kernel, (counts_exact reached rfl).2⟩

/-- A value has a `Weak` to itself, and an assignment destroys it. -/
theorem rc_owns_values_assigned :
    ∃ state : State Nat, (rcMachine Nat).Reaches undisturbed state ∧
      state.blocks.map (fun block => (block.destructions, block.frees)) = [(1, 1), (0, 0)] ∧
      (state.pointer 0).map Pointer.block = some (some 1) ∧ Owned state := by
  refine exists_of_exec
    [.makeRc 7 none, .construct false 0 none (some 0), .makeRc 8 none, .assign 0 2,
      .drop 1, .finish]
    (by decide +kernel) fun reached => ⟨?_, ?_, rc_owns_values reached⟩
  all_goals decide +kernel

/-- `node = node->next` reads the source when the value that it was a member of is gone. -/
theorem assigned_from_member_used_after_free :
    ¬∀ state : State Nat, (rcMachine Nat).Reaches anyMove state → Owned state := by
  intro always
  have reached := (rcMachine Nat).reaches_exec anyMove
    [.makeRc 1 none, .makeRc 2 (some 0), .assign 0 1, .drop 1, .finish, .finish]
    (by decide +kernel)
  exact absurd (always _ reached).used (by decide +kernel)

end CoroRuntime.Rc
