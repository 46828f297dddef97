import CoroRuntime.Foundation.Execution
import Mathlib.Data.Fintype.Basic

/-! # The oneshot channel

`include/coro/sync/oneshot.h`: one sender, one receiver and the futures of the receiver. Each
critical section is one move, and so is each call of a waker after it. A move-assignment of
a handle closes its channel as the destructor does.
-/

namespace CoroRuntime.Oneshot

open Foundation
open Function (update update_apply)

inductive RecvStatus (Waker : Type u) (T : Type v)
  | created
  /-- Pending, and whether the waker of that poll has been called since -/
  | pending (waker : Waker) (woken : Bool)
  /-- the value, or `ChannelError::Closed` -/
  | ready (value : Option T)
  deriving DecidableEq, Repr

structure OneshotState (Recv : Type w) (Waker : Type u) (T : Type v) where
  slot : Option T := none
  senderAlive : Bool := true
  receiverAlive : Bool := true
  receiverWaker : Option Waker := none
  /-- the sender's `m_shared` is not null -/
  sender : Bool := true
  recv : Recv → Option (RecvStatus Waker T) := fun _ => none
  /-- wakers that critical sections have taken out and that are still to be called -/
  waking : List Waker := []

inductive Move (Recv : Type w) (Waker : Type u) (T : Type v)
  | send (value : T)
  | dropSender
  | recv (future : Recv)
  | pollRecv (future : Recv) (waker : Waker)
  | dropRecv (future : Recv)
  | dropReceiver
  | wake (waker : Waker)
  deriving DecidableEq, Repr

def RecvStatus.woken [DecidableEq Waker] (called : Waker) :
    RecvStatus Waker T → RecvStatus Waker T
  | .pending waker woken => .pending waker (woken || waker = called)
  | status => status

namespace OneshotState

variable {Recv : Type w} {Waker : Type u} {T : Type v} [DecidableEq Recv]
variable (state : OneshotState Recv Waker T)

def takeWaker : OneshotState Recv Waker T :=
  { state with receiverWaker := none, waking := state.waking ++ state.receiverWaker.toList }

/-- `OneshotSender::send`; if the receiver is gone, the sender keeps the channel. -/
def send (value : T) : OneshotState Recv Waker T :=
  if state.receiverAlive = false then state
  else { state.takeWaker with slot := some value, senderAlive := false, sender := false }

def pollRecv (id : Recv) (waker : Waker) : OneshotState Recv Waker T :=
  match state.slot with
  | some value =>
    { state with
      slot := none
      recv := update state.recv id (some (.ready (some value))) }
  | none =>
    if state.senderAlive = false then
      { state with recv := update state.recv id (some (.ready none)) }
    else
      { state with
        receiverWaker := some waker
        recv := update state.recv id (some (.pending waker false)) }

variable [DecidableEq Waker]

def step (state : OneshotState Recv Waker T) :
    Move Recv Waker T → Option (OneshotState Recv Waker T)
  | .send value => if state.sender then some (state.send value) else none
  | .dropSender =>
    if state.sender then some { state.takeWaker with senderAlive := false, sender := false }
    else none
  | .recv id =>
    if state.receiverAlive ∧ (state.recv id).isNone then
      some { state with recv := update state.recv id (some .created) }
    else none
  | .pollRecv id waker =>
    match state.recv id with
    -- not again after it has resolved
    | some .created | some (.pending _ _) => some (state.pollRecv id waker)
    | _ => none
  | .dropRecv id =>
    if (state.recv id).isSome then
      some { state with
        receiverWaker := none
        recv := update state.recv id none }
    else none
  | .dropReceiver =>
    if state.receiverAlive then
      some { state with receiverAlive := false, receiverWaker := none }
    else none
  | .wake called =>
    if called ∈ state.waking then
      some { state with
        waking := state.waking.erase called
        recv := fun id => (state.recv id).map (RecvStatus.woken called) }
    else none

end OneshotState

def oneshotMachine (Recv : Type w) (Waker : Type u) (T : Type v) [DecidableEq Recv]
    [DecidableEq Waker] : Machine (OneshotState Recv Waker T) (Move Recv Waker T) where
  initial := {}
  step := OneshotState.step

/-! ## Disciplines -/

variable {Recv : Type w} {Waker : Type u} {T : Type v}

def OneshotState.suspended (state : OneshotState Recv Waker T) (id : Recv) : Bool :=
  match state.recv id with
  | some (.pending _ _) => true
  | _ => false

/-- At most one future is suspended at a time, and the receiver outlives it. -/
def singleReceive (state : OneshotState Recv Waker T) : Move Recv Waker T → Prop
  | .pollRecv id _ => ∀ other, state.suspended other → other = id
  | .dropReceiver => ∀ other, ¬ state.suspended other
  | _ => True

/-- Also, no other future is dropped while one is suspended. -/
def undisturbed (state : OneshotState Recv Waker T) : Move Recv Waker T → Prop
  | .dropRecv id => ∀ other, state.suspended other → other = id
  | move => singleReceive state move

section Decidable

variable [DecidableEq Recv] [Fintype Recv] (state : OneshotState Recv Waker T)

instance : DecidablePred (singleReceive state)
  | .pollRecv id _ => inferInstanceAs (Decidable (∀ other, state.suspended other → other = id))
  | .dropReceiver => inferInstanceAs (Decidable (∀ other, ¬ state.suspended other))
  | .send _ | .dropSender | .recv _ | .dropRecv _ | .wake _ => instDecidableTrue

instance : DecidablePred (undisturbed state)
  | .dropRecv id | .pollRecv id _ =>
    inferInstanceAs (Decidable (∀ other, state.suspended other → other = id))
  | .dropReceiver => inferInstanceAs (Decidable (∀ other, ¬ state.suspended other))
  | .send _ | .dropSender | .recv _ | .wake _ => instDecidableTrue

end Decidable

/-! ## The registration -/

variable {state next : OneshotState Recv Waker T}

/-- A future that waits unwoken has its waker in the shared state, or it is about to be
called. -/
def Attended (state : OneshotState Recv Waker T) : Prop :=
  ∀ id waker, state.recv id = some (.pending waker false) →
    state.receiverWaker = some waker ∨ waker ∈ state.waking

theorem OneshotState.suspended_of_pending {id : Recv}
    (pending : state.recv id = some (.pending waker woken)) : state.suspended id := by
  rw [OneshotState.suspended, pending]

theorem Attended.takeWaker (attended : Attended state) : Attended state.takeWaker := by
  intro id waker pending
  right
  rcases attended id waker pending with there | soon
  · exact List.mem_append_right _ (there ▸ List.mem_singleton_self waker)
  · exact List.mem_append_left _ soon

variable [DecidableEq Recv]

theorem Attended.pollRecv (attended : Attended state) {id : Recv}
    (alone : ∀ other, state.suspended other → other = id) : Attended (state.pollRecv id waker) := by
  have resolved : ∀ value other last,
      update state.recv id (some (.ready value)) other = some (.pending last false) →
        state.receiverWaker = some last ∨ last ∈ state.waking := by
    intro value other last pending
    simp only [update_apply] at pending
    split at pending
    · cases pending
    · exact attended other last pending
  rw [OneshotState.pollRecv]
  split
  · exact resolved _
  split
  · exact resolved _
  · intro other last pending
    simp only [update_apply] at pending
    split at pending
    · cases pending
      exact .inl rfl
    · rename_i different
      exact absurd (alone other (OneshotState.suspended_of_pending pending)) different

variable [DecidableEq Waker]

theorem Attended.step (attended : Attended state) (admitted : undisturbed state move)
    (stepped : state.step move = some next) : Attended next := by
  cases move with
  | send value =>
    rcases of_guard stepped with ⟨-, rfl⟩
    rw [OneshotState.send]
    split
    · exact attended
    · exact attended.takeWaker
  | dropSender =>
    rcases of_guard stepped with ⟨-, rfl⟩
    exact attended.takeWaker
  | recv id =>
    rcases of_guard stepped with ⟨-, rfl⟩
    intro other waker pending
    simp only [update_apply] at pending
    split at pending
    · cases pending
    · exact attended other waker pending
  | pollRecv id waker =>
    have alone : ∀ other, state.suspended other → other = id := admitted
    have polled : next = state.pollRecv id waker := by
      simp only [OneshotState.step] at stepped
      split at stepped
      all_goals cases stepped
      all_goals rfl
    subst polled
    exact attended.pollRecv alone
  | dropRecv id =>
    rcases of_guard stepped with ⟨-, rfl⟩
    intro other waker pending
    simp only [update_apply] at pending
    split at pending
    · cases pending
    · rename_i different
      exact absurd (admitted other (OneshotState.suspended_of_pending pending)) different
  | dropReceiver =>
    rcases of_guard stepped with ⟨-, rfl⟩
    intro other waker pending
    exact absurd (OneshotState.suspended_of_pending pending) (admitted other)
  | wake called =>
    rcases of_guard stepped with ⟨-, rfl⟩
    intro other waker pending
    rcases Option.map_eq_some_iff.mp pending with ⟨before, found, is⟩
    cases before with
    | created => cases is
    | ready => cases is
    | pending last woken =>
      simp only [RecvStatus.woken, RecvStatus.pending.injEq, Bool.or_eq_false_iff,
        decide_eq_false_iff_not] at is
      rcases is with ⟨rfl, rfl, different⟩
      rcases attended other last found with there | soon
      · exact .inl there
      · exact .inr ((List.mem_erase_of_ne different).mpr soon)

theorem attended_of_reaches (reached : (oneshotMachine Recv Waker T).Reaches undisturbed state) :
    Attended state := by
  refine reached.invariant Attended ?_ ?_
  · intro _ _ _ attended admitted stepped
    exact attended.step admitted stepped
  · intro _ _ found
    cases found

end CoroRuntime.Oneshot
