import CoroRuntime.Foundation.Execution
import CoroRuntime.Foundation.Ring
import Mathlib.Data.Fintype.Basic

/-! # The work-stealing run queue

`LocalRunQueueInner` with the operations of its `Local` and `Steal` handles. Each
worker owns one ring and runs one operation at a time; every atomic load, store
and exchange and every move out of or into a slot is one move of the worker.
-/

namespace CoroRuntime.RunQueue

open Foundation

def localQueueCapacity : Nat := 256

def localQueueMask : BitVec 32 := 255

instance : NeZero localQueueCapacity :=
  ⟨by decide⟩

abbrev Index := BitVec 32

/-! ## Index and head helpers -/

/-- `steal` occupies the upper 32 bits; `real` the lower 32. -/
def pack (steal real : Index) : BitVec 64 :=
  (steal.setWidth 64 <<< 32) ||| real.setWidth 64

def unpack (n : BitVec 64) : Index × Index :=
  ((n >>> 32).setWidth 32, (n &&& 0xFFFFFFFF).setWidth 32)

def queueLen (head tail : Index) : Index :=
  tail - head

theorem bufferIndex_lt (index : Index) : (index &&& localQueueMask).toNat < localQueueCapacity := by
  rw [BitVec.toNat_and]
  exact Nat.lt_of_le_of_lt Nat.and_le_right (by decide)

def bufferIndex (index : Index) : Fin localQueueCapacity :=
  ⟨(index &&& localQueueMask).toNat, bufferIndex_lt index⟩

/-! ## Shared inner state -/

/-- The atomics and the buffer of one ring. The positions are history: they count
how far each index has advanced since the ring was made. -/
structure LocalRunQueueInner (T : Type) where
  head : BitVec 64
  tail : Index
  buffer : Fin localQueueCapacity → T
  stealPos : Nat
  realPos : Nat
  tailPos : Nat

namespace LocalRunQueueInner

variable {T : Type}

def empty [Inhabited T] : LocalRunQueueInner T where
  head := 0
  tail := 0
  buffer := fun _ => default
  stealPos := 0
  realPos := 0
  tailPos := 0

def setHead (ring : LocalRunQueueInner T) (next : BitVec 64) : LocalRunQueueInner T :=
  { ring with
    head := next
    stealPos := ring.stealPos + ((unpack next).1 - (unpack ring.head).1).toNat
    realPos := ring.realPos + ((unpack next).2 - (unpack ring.head).2).toNat }

def storeTail (ring : LocalRunQueueInner T) (next : Index) : LocalRunQueueInner T :=
  { ring with
    tail := next
    tailPos := ring.tailPos + (next - ring.tail).toNat }

def write (ring : LocalRunQueueInner T) (index : Index) (task : T) : LocalRunQueueInner T :=
  { ring with buffer := Function.update ring.buffer (bufferIndex index) task }

def read (ring : LocalRunQueueInner T) (index : Index) : T :=
  ring.buffer (bufferIndex index)

end LocalRunQueueInner

/-! ## Operations in progress -/

/-- `LOCAL_QUEUE_CAPACITY / 2` tasks leave the ring when it overflows. -/
def numTaken : Nat := localQueueCapacity / 2

/-- Where a worker is in its operation, with the locals it has read so far. The
`seen` of a thief is the position that the `steal` half of `prev` had when it was
loaded. -/
inductive Activity (Worker T : Type)
  | idle
  | pushBackLoadTail (task : T)
  | pushBackLoadHead (task : T) (tail : Index)
  | pushLoadHead (task : T)
  | pushLoadTail (task : T) (headVal : BitVec 64)
  | overflowSingle (task : T)
  | overflowClaim (task : T) (head tail : Index)
  | overflowReexpose (task : T) (head tail : Index)
  | overflowMove (task : T) (head : Index) (batch : List T)
  | overflowBatch (batch : List T)
  | finishWrite (task : T) (tail : Index)
  | finishStore (tail : Index)
  | popLoadHead
  | popLoadTail (headVal : BitVec 64)
  | popClaim (headVal : BitVec 64)
  | popMove (real : Index)
  | stealLoadDstTail (victim : Worker)
  | stealLoadDstHead (victim : Worker) (dstTail : Index)
  | stealLoadHead (victim : Worker) (dstTail : Index)
  | stealLoadTail (victim : Worker) (dstTail : Index) (prev : BitVec 64) (seen : Nat)
  | stealClaim (victim : Worker) (dstTail : Index) (prev : BitVec 64) (n : Index) (seen : Nat)
  | stealMove (victim : Worker) (dstTail : Index) (prev : BitVec 64) (first : Index)
      (n i : Nat)
  | stealRelease (victim : Worker) (dstTail : Index) (prev : BitVec 64) (n : Nat)
  | stealTake (dstTail : Index) (n : Nat)
  | stealPublish (dstTail : Index) (n : Nat) (ret : T)
  | returning (ret : T)
  | assertFailed
  deriving DecidableEq, Repr

inductive Operation (Worker T : Type)
  | pushBack (task : T)
  | pushOrOverflow (task : T)
  | pop
  | stealInto (victim : Worker)
  deriving DecidableEq, Repr

/-- All rings and what their owners do. `pushed` and `returned` record what went
into a push and what a `pop` or `steal_into` gave back. -/
structure QueueState (Worker T : Type) where
  ring : Worker → LocalRunQueueInner T
  activity : Worker → Activity Worker T
  /-- The injection queue that overflowing tasks go to. -/
  injection : List T
  pushed : List T
  returned : List T

inductive Move (Worker T : Type)
  | start (worker : Worker) (operation : Operation Worker T)
  /-- The next access of the worker's operation. `weak` makes an exchange fail
  even though the head is the expected one. -/
  | advance (worker : Worker) (weak : Bool)
  deriving DecidableEq, Repr

namespace QueueState

variable {Worker T : Type} [DecidableEq Worker]
variable (state : QueueState Worker T)

def goto (worker : Worker) (activity : Activity Worker T) : QueueState Worker T :=
  { state with activity := Function.update state.activity worker activity }

def setRing (owner : Worker) (ring : LocalRunQueueInner T) : QueueState Worker T :=
  { state with ring := Function.update state.ring owner ring }

def give (worker : Worker) (task : T) : QueueState Worker T :=
  { state with returned := state.returned ++ [task] }.goto worker .idle

def inject (worker : Worker) (tasks : List T) : QueueState Worker T :=
  { state with injection := state.injection ++ tasks }.goto worker .idle

/-- Entering an operation. A thief's victim is another worker's ring. -/
def start (worker : Worker) :
    Operation Worker T → Option (QueueState Worker T)
  | .pushBack task =>
    some ({ state with pushed := state.pushed ++ [task] }.goto worker (.pushBackLoadTail task))
  | .pushOrOverflow task =>
    some ({ state with pushed := state.pushed ++ [task] }.goto worker (.pushLoadHead task))
  | .pop => some (state.goto worker .popLoadHead)
  | .stealInto victim =>
    if victim = worker then none else some (state.goto worker (.stealLoadDstTail victim))

/-- How `push_or_overflow` goes on once it has read both ends of the ring. -/
def pushDecision (task : T) (headVal : BitVec 64) (tail : Index) : Activity Worker T :=
  let (steal, real) := unpack headVal
  if (queueLen steal tail).toNat < localQueueCapacity then .finishWrite task tail
  else if steal ≠ real then .overflowSingle task
  else if (queueLen real tail).toNat = localQueueCapacity then .overflowClaim task real tail
  else .assertFailed

/-- The exchange that claims the whole ring for `push_overflow`. -/
def overflowClaim (worker : Worker) (weak : Bool) (task : T)
    (head tail : Index) : QueueState Worker T :=
  let ring := state.ring worker
  if weak = false ∧ ring.head = pack head head then
    (state.setRing worker (ring.setHead (pack tail tail))).goto worker
      (.overflowReexpose task head tail)
  else state.goto worker (.pushLoadHead task)

/-- One turn of the loop that moves the second half into the batch. -/
def overflowMove (worker : Worker) (task : T) (head : Index)
    (batch : List T) : QueueState Worker T :=
  let src := head + BitVec.ofNat 32 numTaken
  let filled := batch ++ [(state.ring worker).read (src + BitVec.ofNat 32 batch.length)]
  state.goto worker
    (if filled.length < numTaken then .overflowMove task head filled
      else .overflowBatch (filled ++ [task]))

def popNext (headVal : BitVec 64) : BitVec 64 :=
  let (steal, real) := unpack headVal
  let nextReal := real + 1
  if steal = real then pack nextReal nextReal else pack steal nextReal

def popClaim (worker : Worker) (weak : Bool)
    (headVal : BitVec 64) : QueueState Worker T :=
  let ring := state.ring worker
  if weak = false ∧ ring.head = headVal then
    (state.setRing worker (ring.setHead (popNext headVal))).goto worker
      (.popMove (unpack headVal).2)
  else state.goto worker (.popLoadTail ring.head)

def stealCount (avail : Index) : Index :=
  avail - avail / 2

/-- How `steal_into2` goes on once it has read both ends of the victim's ring. -/
def stealDecision (victim : Worker) (dstTail : Index) (prev : BitVec 64) (srcTail : Index)
    (seen : Nat) : Activity Worker T :=
  let (srcSteal, srcReal) := unpack prev
  let n := stealCount (srcTail - srcReal)
  if srcSteal ≠ srcReal then .idle
  else if n = 0 then .idle
  else if srcSteal = srcReal + n then .assertFailed
  else .stealClaim victim dstTail prev n seen

def stealClaim (worker : Worker) (weak : Bool) (victim : Worker)
    (dstTail : Index) (prev : BitVec 64) (n : Index) : QueueState Worker T :=
  let source := state.ring victim
  let (srcSteal, srcReal) := unpack prev
  let next := pack srcSteal (srcReal + n)
  if weak = false ∧ source.head = prev then
    (state.setRing victim (source.setHead next)).goto worker
      (if n.toNat ≤ localQueueCapacity / 2 then
        .stealMove victim dstTail prev (unpack next).1 n.toNat 0
      else .assertFailed)
  else state.goto worker (.stealLoadTail victim dstTail source.head source.stealPos)

/-- One turn of the loop that moves the claimed tasks into the thief's ring. -/
def stealMove (worker victim : Worker) (dstTail : Index)
    (prev : BitVec 64) (first : Index) (n i : Nat) : QueueState Worker T :=
  let task := (state.ring victim).read (first + BitVec.ofNat 32 i)
  (state.setRing worker ((state.ring worker).write (dstTail + BitVec.ofNat 32 i) task)).goto
    worker
    (if i + 1 < n then .stealMove victim dstTail prev first n (i + 1)
      else .stealRelease victim dstTail prev n)

/-- The exchange that sets `steal` to `real`. The first one expects the head from
before the claim. -/
def stealRelease (worker : Worker) (weak : Bool)
    (victim : Worker) (dstTail : Index) (prev : BitVec 64) (n : Nat) : QueueState Worker T :=
  let source := state.ring victim
  let real := (unpack prev).2
  if weak = false ∧ source.head = prev then
    (state.setRing victim (source.setHead (pack real real))).goto worker (.stealTake dstTail n)
  else state.goto worker (.stealRelease victim dstTail source.head n)

def stealTake (worker : Worker) (dstTail : Index) (n : Nat) : QueueState Worker T :=
  let kept := n - 1
  let ret := (state.ring worker).read (dstTail + BitVec.ofNat 32 kept)
  state.goto worker (if 0 < kept then .stealPublish dstTail kept ret else .returning ret)

def advance (worker : Worker) (weak : Bool) : Option (QueueState Worker T) :=
  let ring := state.ring worker
  match state.activity worker with
  | .idle => none
  | .pushBackLoadTail task => some (state.goto worker (.pushBackLoadHead task ring.tail))
  | .pushBackLoadHead task tail =>
    some (state.goto worker
      (if (queueLen (unpack ring.head).1 tail).toNat < localQueueCapacity then
        .finishWrite task tail
      else .assertFailed))
  | .pushLoadHead task => some (state.goto worker (.pushLoadTail task ring.head))
  | .pushLoadTail task headVal =>
    some (state.goto worker (pushDecision task headVal ring.tail))
  | .overflowSingle task => some (state.inject worker [task])
  | .overflowClaim task head tail => some (state.overflowClaim worker weak task head tail)
  | .overflowReexpose task head tail =>
    some ((state.setRing worker (ring.storeTail (tail + BitVec.ofNat 32 numTaken))).goto
      worker (.overflowMove task head []))
  | .overflowMove task head batch => some (state.overflowMove worker task head batch)
  | .overflowBatch batch => some (state.inject worker batch)
  | .finishWrite task tail =>
    some ((state.setRing worker (ring.write tail task)).goto worker (.finishStore tail))
  | .finishStore tail =>
    some ((state.setRing worker (ring.storeTail (tail + 1))).goto worker .idle)
  | .popLoadHead => some (state.goto worker (.popLoadTail ring.head))
  | .popLoadTail headVal =>
    some (state.goto worker
      (if (unpack headVal).2 = ring.tail then .idle else .popClaim headVal))
  | .popClaim headVal => some (state.popClaim worker weak headVal)
  | .popMove real => some (state.give worker (ring.read real))
  | .stealLoadDstTail victim => some (state.goto worker (.stealLoadDstHead victim ring.tail))
  | .stealLoadDstHead victim dstTail =>
    some (state.goto worker
      (if (queueLen (unpack ring.head).1 dstTail).toNat > localQueueCapacity / 2 then .idle
      else .stealLoadHead victim dstTail))
  | .stealLoadHead victim dstTail =>
    let source := state.ring victim
    some (state.goto worker (.stealLoadTail victim dstTail source.head source.stealPos))
  | .stealLoadTail victim dstTail prev seen =>
    some (state.goto worker
      (stealDecision victim dstTail prev (state.ring victim).tail seen))
  | .stealClaim victim dstTail prev n _ =>
    some (state.stealClaim worker weak victim dstTail prev n)
  | .stealMove victim dstTail prev first n i =>
    some (state.stealMove worker victim dstTail prev first n i)
  | .stealRelease victim dstTail prev n =>
    some (state.stealRelease worker weak victim dstTail prev n)
  | .stealTake dstTail n => some (state.stealTake worker dstTail n)
  | .stealPublish dstTail n ret =>
    some ((state.setRing worker (ring.storeTail (dstTail + BitVec.ofNat 32 n))).goto worker
      (.returning ret))
  | .returning ret => some (state.give worker ret)
  | .assertFailed => none

def step : Move Worker T → Option (QueueState Worker T)
  | .start worker operation =>
    match state.activity worker with
    | .idle => state.start worker operation
    | _ => none
  | .advance worker weak => state.advance worker weak

end QueueState

def emptyQueues (Worker T : Type) [Inhabited T] : QueueState Worker T where
  ring := fun _ => .empty
  activity := fun _ => .idle
  injection := []
  pushed := []
  returned := []

def queueMachine (Worker T : Type) [DecidableEq Worker] [Inhabited T] :
    Machine (QueueState Worker T) (Move Worker T) where
  initial := emptyQueues Worker T
  step := QueueState.step

/-- The victim whose head a thief is about to exchange, and the position at which
it loaded that head. -/
def Activity.claiming : Activity Worker T → Option (Worker × Nat)
  | .stealClaim victim _ _ _ seen => some (victim, seen)
  | _ => none

/-- `push_back` is called only on a ring with a free slot, as its contract asks,
and the head a thief claims from has not gone round the whole index range since
the thief loaded it. -/
def withinContract (state : QueueState Worker T) : Move Worker T → Prop
  | .start worker (.pushBack _) =>
    (queueLen (unpack (state.ring worker).head).1 (state.ring worker).tail).toNat <
      localQueueCapacity
  | .start _ _ => True
  | .advance worker _ =>
    ∀ claim ∈ (state.activity worker).claiming,
      (state.ring claim.1).stealPos < claim.2 + 2 ^ 32

instance (state : QueueState Worker T) :
    (move : Move Worker T) → Decidable (withinContract state move)
  | .start _ (.pushBack _) => inferInstanceAs (Decidable (_ < _))
  | .start _ (.pushOrOverflow _) => isTrue trivial
  | .start _ .pop => isTrue trivial
  | .start _ (.stealInto _) => isTrue trivial
  | .advance _ _ => inferInstanceAs (Decidable (∀ _ ∈ Activity.claiming _, _))

end CoroRuntime.RunQueue
