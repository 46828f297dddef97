import CoroRuntime.Foundation.Execution

/-! # `Rc` and `Weak` on the Pico

`NonAtomicRc` and `NonAtomicWeak` in `include/coro/detail/rc.h`. Pointer objects and control
blocks are numbered in the order in which they are created. The value of a block is destroyed
by code that may do anything with pointers, so `destroy_value()` is open: it begins when the
last strong pointer is released, then any operations come, and at last it returns.
-/

namespace CoroRuntime.Rc

open Foundation

structure Pointer (Ptr : Type u) where
  strong : Bool
  block : Option Nat := none
  ptr : Option Ptr := none
  /-- The block whose value it is a member of, if any. -/
  home : Option Nat := none
  /-- History: its `release()` has given up its share of the block, and it still points there. -/
  releasing : Bool := false
  deriving DecidableEq, Repr

structure Block where
  strongCount : Int := 1
  weakCount : Int := 0
  destroying : Bool := false
  /-- History: the calls of `destroy_value()` and of `delete`. -/
  destructions : Nat := 0
  frees : Nat := 0
  deriving DecidableEq, Repr

inductive Next (Ptr : Type u)
  /-- the rest of `operator=`. History: what the source held when it was called. -/
  | copy (source : Nat) (block : Option Nat) (ptr : Option Ptr)
  | move (source : Nat) (block : Option Nat) (ptr : Option Ptr)
  | clear
  | destroy
  deriving DecidableEq, Repr

/-- A `destroy_value()` that has not returned, and the pointer whose `release()` called it. -/
structure Frame (Ptr : Type u) where
  block : Nat
  target : Nat
  next : Next Ptr
  deriving DecidableEq, Repr

structure State (Ptr : Type u) where
  /-- `none` once the object is destroyed -/
  pointers : List (Option (Pointer Ptr)) := []
  blocks : List Block := []
  stack : List (Frame Ptr) := []
  /-- History: a pointer object was used after its destruction, or a block after it was
  freed. -/
  misused : Bool := false
  deriving DecidableEq, Repr

inductive Move (Ptr : Type u)
  | empty (strong : Bool) (home : Option Nat)
  | makeRc (ptr : Ptr) (home : Option Nat)
  /-- a copy, an upcast, an aliasing pointer or a `Weak` of an `Rc` -/
  | construct (strong : Bool) (source : Nat) (aliasing : Option Ptr) (home : Option Nat)
  | moveConstruct (source : Nat) (home : Option Nat)
  | lock (source : Nat) (home : Option Nat)
  | assign (target source : Nat)
  | moveAssign (target source : Nat)
  | reset (target : Nat)
  | drop (target : Nat)
  /-- The innermost `destroy_value()` returns. -/
  | finish
  deriving DecidableEq, Repr

namespace State

variable {Ptr : Type u}
variable (state : State Ptr)

def pointer (index : Nat) : Option (Pointer Ptr) :=
  state.pointers[index]?.join

def setPointer (index : Nat) (pointer : Option (Pointer Ptr)) : State Ptr :=
  { state with pointers := state.pointers.set index pointer }

def misuse : State Ptr := { state with misused := true }

def touch (index : Nat) (change : Block → Block) : State Ptr :=
  match state.blocks[index]? with
  | some block =>
    { state with
      blocks := state.blocks.set index (change block)
      misused := state.misused || block.frees != 0 }
  | none => state.misuse

def addRef (strong : Bool) : Option Nat → State Ptr
  | some index => state.touch index fun block =>
    if strong then { block with strongCount := block.strongCount + 1 }
    else { block with weakCount := block.weakCount + 1 }
  | none => state

def free : Option Nat → State Ptr
  | some index => state.touch index fun block => { block with frees := block.frees + 1 }
  | none => state

/-- What is done with the target when its `release()` has returned. -/
def proceed (index : Nat) (next : Next Ptr) : State Ptr :=
  match state.pointer index with
  | none => state.misuse
  | some target =>
    match next with
    | .copy origin _ _ =>
      match state.pointer origin with
      | none => state.misuse
      | some source =>
        (state.setPointer index (some { target with
          block := source.block, ptr := source.ptr, releasing := false })).addRef
          target.strong source.block
    | .move origin _ _ =>
      match state.pointer origin with
      | none => state.misuse
      | some source =>
        (state.setPointer index (some { target with
          block := source.block, ptr := source.ptr, releasing := false })).setPointer origin
          (some { source with block := none, ptr := none })
    | .clear =>
      state.setPointer index
        (some { target with block := none, ptr := none, releasing := false })
    | .destroy => state.setPointer index none

def releaseWeak (index : Nat) : State Ptr :=
  match state.blocks[index]? with
  | none => state.misuse
  | some block =>
    let released := state.touch index fun block => { block with weakCount := block.weakCount - 1 }
    if !block.destroying && block.weakCount - 1 = 0 && block.strongCount = 0 then
      released.free (some index)
    else released

def release (index : Nat) (pointer : Pointer Ptr) (next : Next Ptr) : State Ptr :=
  let released := state.setPointer index (some { pointer with releasing := true })
  match pointer.block with
  | none => state.proceed index next
  | some slot =>
    if pointer.strong then
      match state.blocks[slot]? with
      | none => state.misuse
      | some block =>
        if block.strongCount - 1 = 0 then
          { released.touch slot fun block =>
              { block with
                strongCount := block.strongCount - 1
                destroying := true
                destructions := block.destructions + 1 } with
            stack := ⟨slot, index, next⟩ :: state.stack }
        else
          (released.touch slot fun block =>
            { block with strongCount := block.strongCount - 1 }).proceed index next
    else (released.releaseWeak slot).proceed index next

/-- Members are constructed in a value that has not been destroyed. -/
def hosts : Option Nat → Bool
  | none => true
  | some index => match state.blocks[index]? with
      | some block => block.destructions = 0
      | none => false

def push (pointer : Pointer Ptr) : State Ptr :=
  { state with pointers := state.pointers ++ [some pointer] }

/-- What `lock()` returns, as long as the block is there. -/
def lock (pointer : Pointer Ptr) (home : Option Nat) : Pointer Ptr :=
  match pointer.block.bind (state.blocks[·]?) with
  | some block =>
    if 0 < block.strongCount then
      { strong := true, block := pointer.block, ptr := pointer.ptr, home }
    else { strong := true, home }
  | none => { strong := true, home }

def membersGone (index : Nat) : Bool :=
  state.pointers.all fun pointer =>
    match pointer with
    | some pointer => pointer.home ≠ some index
    | none => true

def finish : Option (State Ptr) :=
  match state.stack with
  | [] => none
  | frame :: rest =>
    if state.membersGone frame.block then
      let finished :=
        { state.touch frame.block fun block => { block with destroying := false } with
          stack := rest }
      match state.blocks[frame.block]?, finished.pointer frame.target with
      | some block, some target =>
        if block.weakCount = 0 then
          some ((finished.free target.block).proceed frame.target frame.next)
        else some (finished.proceed frame.target frame.next)
      | _, _ => some finished.misuse
    else none

def step : Move Ptr → Option (State Ptr)
  | .empty strong home =>
    if state.hosts home then some (state.push { strong, home }) else none
  | .makeRc ptr home =>
    if state.hosts home then
      some ({ state with blocks := state.blocks ++ [({} : Block)] }.push
        { strong := true, block := some state.blocks.length, ptr := some ptr, home })
    else none
  | .construct strong origin aliasing home =>
    match state.pointer origin with
    | some source =>
      if state.hosts home && (!strong || source.strong) then
        some ((state.push
          { strong, block := source.block, ptr := aliasing.or source.ptr, home }).addRef
          strong source.block)
      else none
    | none => none
  | .moveConstruct origin home =>
    match state.pointer origin with
    | some source =>
      if state.hosts home then
        some ((state.setPointer origin (some { source with block := none, ptr := none })).push
          { strong := source.strong, block := source.block, ptr := source.ptr, home })
      else none
    | none => none
  | .lock origin home =>
    match state.pointer origin with
    | some source =>
      if state.hosts home && !source.strong then
        let read := match source.block with
          | some index => state.touch index id
          | none => state
        let locked := state.lock source home
        some ((read.push locked).addRef true locked.block)
      else none
    | none => none
  | .assign index origin =>
    match state.pointer index, state.pointer origin with
    | some target, some source =>
      if index = origin then some state
      else if !target.strong || source.strong then
        some (state.release index target (.copy origin source.block source.ptr))
      else none
    | _, _ => none
  | .moveAssign index origin =>
    match state.pointer index, state.pointer origin with
    | some target, some source =>
      if index = origin then some state
      else if target.strong = source.strong then
        some (state.release index target (.move origin source.block source.ptr))
      else none
    | _, _ => none
  | .reset index =>
    match state.pointer index with
    | some target => some (state.release index target .clear)
    | none => none
  | .drop index =>
    match state.pointer index with
    | some target => some (state.release index target .destroy)
    | none => none
  | .finish => state.finish

end State

def rcMachine (Ptr : Type u) : Machine (State Ptr) (Move Ptr) where
  initial := {}
  step := State.step

end CoroRuntime.Rc
