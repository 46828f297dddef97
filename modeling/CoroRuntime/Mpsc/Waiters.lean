import CoroRuntime.Mpsc.Channel

/-! # What a move of the channel does

Senders are suspended only behind a full buffer, and the receiver waits only for an empty
one. That rules out most combinations of what a critical section may find, and `Effect`
lists the ones that are left with what they do.
-/

namespace CoroRuntime.Mpsc

open Foundation

variable {Send Recv Waker T : Type}

structure Linked (state : MpscState Send Recv Waker T) : Prop where
  nodup : state.senderWaiters.Nodup
  alive : ∀ id ∈ state.senderWaiters, ∃ future, state.send id = some future
  full : state.senderWaiters ≠ [] → state.receiver = .active ∧
    state.capacity ≤ state.buffer.length ∧ state.receiverWaiter = none
  empty : ∀ node, state.receiverWaiter = some node →
    state.buffer = [] ∧ state.senderWaiters = []

namespace Linked

variable {state : MpscState Send Recv Waker T}

variable (linked : Linked state)

include linked

theorem inactive_nobody (noReceiver : state.receiver ≠ .active) : state.senderWaiters = [] := by
  by_contra waiting
  exact noReceiver (linked.full waiting).1

theorem roomy_nobody (room : state.buffer.length < state.capacity) : state.senderWaiters = [] := by
  by_contra waiting
  have full := (linked.full waiting).2.1
  omega

theorem filled_nowaits (filled : state.buffer ≠ []) : state.receiverWaiter = none := by
  rw [Option.eq_none_iff_forall_ne_some]
  intro node waits
  exact filled (linked.empty node waits).1

theorem alive_update [DecidableEq Send] (id : Send) (future : SendFuture Waker T)
    {waiters : List Send} (joined : ∀ other ∈ waiters, other ∈ state.senderWaiters ∨ other = id) :
    ∀ other ∈ waiters,
      ∃ found, Function.update state.send id (some future) other = some found := by
  intro other member
  by_cases same : other = id
  · subst same
    exact ⟨future, Function.update_self ..⟩
  · rw [Function.update_of_ne same]
    exact linked.alive other ((joined other member).resolve_right same)

end Linked

/-- The receive operation that a move polls, if it is one; `try_recv()` belongs to none. -/
def Move.receives : Move Send Recv Waker T → Option (Option (Operation Recv))
  | .pollRecv id _ => some (some (.future id))
  | .pollNext _ => some (some .stream)
  | .tryRecv => some none
  | _ => none

section Effects

variable [DecidableEq Recv]

def MpscState.resolve (state : MpscState Send Recv Waker T) :
    Option (Operation Recv) → MpscState Send Recv Waker T
  | some operation => state.setStatus operation .ready
  | none => state

theorem Linked.resolve (linked : Linked state) (operation : Option (Operation Recv)) :
    Linked (state.resolve operation) := by
  rcases operation with _ | (_ | _) <;>
    exact { linked with }

variable [DecidableEq Send] [DecidableEq Waker]

inductive Effect (state : MpscState Send Recv Waker T) :
    Move Send Recv Waker T → MpscState Send Recv Waker T → Prop
  | counts {move senders weak} (same : senders = 0 ↔ state.senderCount = 0) :
      Effect state move { state with senderCount := senders, weakSenders := weak }
  | closed {move} :
      Effect state move { state with
        senderCount := 0
        receiverWaiter := state.receiverWaiter.map fun node => { node with waker := none }
        waking := state.waking ++
          (state.receiverWaiter.bind ReceiverNode.waker).toList.map some }
  | sendCreated {move id value} (unused : state.send id = none) :
      Effect state move ({ state with
        futures := state.futures + 1
        passed := state.passed ++ [value] }.setSend id ⟨value, true, none, 0, none, .created⟩)
  | looked {move id future waker} (found : state.send id = some future)
      (unresolved : future.unresolved = true) (has : future.hasValue = true) :
      Effect state move (state.setSend id { future with polling := some waker })
  | lookedDone {move id future} (found : state.send id = some future)
      (unresolved : future.unresolved = true) (taken : future.hasValue = false) :
      Effect state move (state.setSend id { future with status := .sent })
  | returned {move id future} (found : state.send id = some future)
      (polling : future.polling.isSome) (noReceiver : state.receiver ≠ .active)
      (nobody : state.senderWaiters = []) :
      Effect state move ({ state with
        returned := state.returned ++ [future.value] }.setSend id
          { future with polling := none, status := .failed })
  | delivered {move id future node} (found : state.send id = some future)
      (polling : future.polling.isSome) (waits : state.receiverWaiter = some node)
      (drained : state.buffer = []) (nobody : state.senderWaiters = []) :
      Effect state move ({ state with
        buffer := [Entry.mk future.value state.turns]
        turns := state.turns + 1
        receiverWaiter := none
        waking := state.waking ++ [node.waker] }.setSend id
          { future with polling := none, status := .sent })
  | buffered {move id future} (found : state.send id = some future)
      (polling : future.polling.isSome) (nowaits : state.receiverWaiter = none)
      (nobody : state.senderWaiters = []) :
      Effect state move ({ state with
        buffer := state.buffer ++ [Entry.mk future.value state.turns]
        turns := state.turns + 1 }.setSend id
          { future with polling := none, status := .sent })
  | suspended {move id future waker} (found : state.send id = some future)
      (polling : future.polling.isSome) (active : state.receiver = .active)
      (nowaits : state.receiverWaiter = none) (full : state.capacity ≤ state.buffer.length) :
      Effect state move ({ state with
        senderWaiters := state.senderWaiters.erase id ++ [id]
        turns := state.turns + 1 }.setSend id
          { future with
            nodeWaker := some waker
            turn := state.turns
            polling := none
            status := .pending waker false })
  | dropSend {move id future} (found : state.send id = some future) :
      Effect state move { state with
        senderWaiters := state.senderWaiters.erase id
        futures := state.futures - 1
        send := Function.update state.send id none
        droppedUnsent := state.droppedUnsent ++
          if future.unresolved ∧ future.hasValue then [future.value] else [] }
  | tryReturned {move value} :
      Effect state move { state with
        passed := state.passed ++ [value]
        returned := state.returned ++ [value] }
  | tryDelivered {move value node} (waits : state.receiverWaiter = some node)
      (drained : state.buffer = []) (nobody : state.senderWaiters = []) :
      Effect state move { state with
        buffer := [Entry.mk value state.turns]
        turns := state.turns + 1
        receiverWaiter := none
        waking := state.waking ++ [node.waker]
        passed := state.passed ++ [value] }
  | tryBuffered {move value} (nowaits : state.receiverWaiter = none)
      (nobody : state.senderWaiters = []) :
      Effect state move { state with
        buffer := state.buffer ++ [Entry.mk value state.turns]
        turns := state.turns + 1
        passed := state.passed ++ [value] }
  | recvCreated {move id} (unused : state.recv id = none) :
      Effect state move
        ({ state with futures := state.futures + 1 }.setStatus (.future id) .created)
  | popped {move operation entry rest} (receives : move.receives = some operation)
      (front : state.buffer = entry :: rest) (nobody : state.senderWaiters = [])
      (nowaits : state.receiverWaiter = none) :
      Effect state move ({ state with
        buffer := rest
        received := state.received ++ [entry] }.resolve operation)
  | promoted {move operation entry rest id waiters future}
      (receives : move.receives = some operation) (front : state.buffer = entry :: rest)
      (waiting : state.senderWaiters = id :: waiters) (found : state.send id = some future) :
      Effect state move (({ state with
        buffer := rest ++ [Entry.mk future.value future.turn]
        received := state.received ++ [entry]
        senderWaiters := waiters
        waking := state.waking ++ future.nodeWaker.toList.map some }.setSend id
          { future with hasValue := false, nodeWaker := none }).resolve operation)
  | taken {move operation id waiters future} (receives : move.receives = some operation)
      (drained : state.buffer = []) (waiting : state.senderWaiters = id :: waiters)
      (found : state.send id = some future) :
      Effect state move (({ state with
        received := state.received ++ [Entry.mk future.value future.turn]
        senderWaiters := waiters
        waking := state.waking ++ future.nodeWaker.toList.map some }.setSend id
          { future with hasValue := false, nodeWaker := none }).resolve operation)
  | ended {move operation} (receives : move.receives = some operation)
      (finished : operation.isSome → state.senderCount = 0) :
      Effect state move (state.resolve operation)
  | registered {move operation waker} (receives : move.receives = some (some operation))
      (active : operation = .stream → state.receiver = .active)
      (drained : state.buffer = []) (nobody : state.senderWaiters = [])
      (remaining : state.senderCount ≠ 0) :
      Effect state move ({ state with
        receiverWaiter := some ⟨some waker, operation⟩ }.setStatus operation
          (.pending waker false))
  | dropRecv {id} :
      Effect state (.dropRecv id) { state with
        receiverWaiter := none
        futures := state.futures - 1
        recv := Function.update state.recv id none }
  | deactivated : Effect state .deactivate state.deactivate
  | activated {move} (inactive : state.receiver = .inactive) :
      Effect state move { state with receiver := .active }
  | receiverDropped {move} (active : state.receiver = .active) :
      Effect state move { state with receiver := .dropped, stream := .created }.unlinkSenders
  | inactiveDropped {move} (inactive : state.receiver = .inactive) :
      Effect state move { state with receiver := .dropped }
  | destroyed {move} (dropped : state.receiver = .dropped) :
      Effect state move { state with
        buffer := []
        discarded := state.discarded ++ state.buffer.map Entry.value }
  | woken {move called} :
      Effect state move
        ({ state with waking := state.waking.erase (some called) }.callWaker called)

variable {state next : MpscState Send Recv Waker T}

namespace Linked

variable (linked : Linked state)

include linked

theorem effect_popFront (receives : move.receives = some operation)
    (front : state.buffer = entry :: rest) :
    Effect state move ((state.popFront entry rest).resolve operation) := by
  unfold MpscState.popFront MpscState.tryPromoteSender
  split
  · rename_i id waiters waiting
    rcases linked.alive id (by rw [show state.senderWaiters = _ from waiting]; simp) with
      ⟨future, found⟩
    rw [show state.send id = _ from found]
    exact .promoted receives front waiting found
  · rename_i nobody
    exact .popped receives front nobody (linked.filled_nowaits (by rw [front]; simp))

theorem effect_pollReceive (receives : move.receives = some (some operation))
    (active : operation = .stream → state.receiver = .active) (waker : Waker) :
    Effect state move (state.pollReceive operation waker) := by
  unfold MpscState.pollReceive
  split
  · rename_i entry rest front
    exact linked.effect_popFront receives front
  · rename_i id waiters drained waiting
    rcases linked.alive id (by rw [waiting]; simp) with ⟨future, found⟩
    simp only [MpscState.takeSender, found]
    exact .taken receives drained waiting found
  · rename_i drained nobody
    split
    · rename_i finished
      exact .ended receives fun _ => finished
    · rename_i remaining
      exact .registered receives active drained nobody remaining

theorem effect_pollSend (move : Move Send Recv Waker T) {id : Send}
    (found : state.send id = some future) (polling : future.polling = some waker) :
    Effect state move (state.pollSend id future waker) := by
  have isPolling : future.polling.isSome := by rw [polling]; rfl
  unfold MpscState.pollSend
  split
  · rename_i noReceiver
    have nobody := linked.inactive_nobody noReceiver
    simp only [nobody, List.erase_nil]
    rw [← nobody]
    exact .returned found isPolling noReceiver nobody
  · rename_i active
    split
    · rename_i node waits
      rcases linked.empty node waits with ⟨drained, nobody⟩
      simp only [nobody, List.erase_nil, MpscState.pushBack, drained, List.nil_append]
      rw [← nobody]
      exact .delivered found isPolling waits drained nobody
    · rename_i nowaits
      split
      · rename_i room
        exact .buffered found isPolling nowaits (linked.roomy_nobody room)
      · rename_i full
        exact .suspended found isPolling (not_not.mp active) nowaits (by omega)

theorem effect_trySend (move : Move Send Recv Waker T) (value : T) :
    Effect state move ({ state with passed := state.passed ++ [value] }.trySend value) := by
  unfold MpscState.trySend
  split
  · exact .tryReturned
  · rename_i node accepted waits
    rcases linked.empty node waits with ⟨drained, nobody⟩
    simp only [MpscState.pushBack, drained, List.nil_append]
    exact .tryDelivered waits drained nobody
  · rename_i accepted nowaits
    refine .tryBuffered nowaits (linked.roomy_nobody ?_)
    simp only [MpscState.trySendError] at accepted
    split at accepted <;> simp at accepted
    exact accepted

omit linked in
theorem effect_dropSender (move : Move Send Recv Waker T) (remaining : state.senderCount ≠ 0) :
    Effect state move state.dropSender := by
  simp only [MpscState.dropSender]
  split
  · rename_i last
    have closed : Effect state move _ := .closed
    split
    · rename_i node waits
      rw [waits] at closed
      rw [last]
      exact closed
    · rename_i nowaits
      simp only [nowaits, Option.map_none, Option.bind_none, Option.toList_none, List.map_nil,
        List.append_nil] at closed
      rw [last, nowaits]
      exact closed
  · rename_i several
    exact .counts (iff_of_false several remaining)

theorem effect (stepped : state.step move = some next) : Effect state move next := by
  cases move with simp only [MpscState.step] at stepped
  | cloneSender | dropSender | downgrade =>
    rcases of_unless stepped with ⟨remaining, rfl⟩
    first
      | exact effect_dropSender _ remaining
      | exact .counts (by omega)
  | copyWeak | dropWeak =>
    rcases of_unless stepped with ⟨_, rfl⟩
    exact .counts Iff.rfl
  | upgrade =>
    split at stepped
    · cases stepped
    · split at stepped <;> cases stepped
      · have unchanged : Effect state .upgrade { state with
            senderCount := state.senderCount, weakSenders := state.weakSenders } :=
          .counts Iff.rfl
        exact unchanged
      · exact .counts (by omega)
  | send id value =>
    rcases of_unless stepped with ⟨fresh, rfl⟩
    exact .sendCreated (by simpa using fun found => fresh (.inr found))
  | pollLook id waker =>
    split at stepped
    · rename_i future found
      rcases of_guard stepped with ⟨⟨_, unresolved⟩, rfl⟩
      split
      · rename_i has
        exact .looked found unresolved has
      · rename_i taken
        exact .lookedDone found unresolved (by simpa using taken)
    · cases stepped
  | pollSend id =>
    split at stepped
    · rename_i future found
      rcases Option.map_eq_some_iff.mp stepped with ⟨waker, polling, rfl⟩
      exact linked.effect_pollSend _ found polling
    · cases stepped
  | dropSend id =>
    split at stepped
    · rename_i future found
      rcases of_guard stepped with ⟨-, rfl⟩
      exact .dropSend found
    · cases stepped
  | trySend value =>
    rcases of_unless stepped with ⟨_, rfl⟩
    exact linked.effect_trySend _ value
  | recv id =>
    rcases of_guard stepped with ⟨⟨_, unused⟩, rfl⟩
    exact .recvCreated (by simpa using unused)
  | pollRecv id waker =>
    split at stepped
    · rcases of_unless stepped with ⟨-, rfl⟩
      have receives : (Move.pollRecv id waker : Move Send Recv Waker T).receives =
        some (some (.future id)) := rfl
      exact linked.effect_pollReceive receives nofun waker
    · cases stepped
  | dropRecv id =>
    rcases of_guard stepped with ⟨_, rfl⟩
    exact .dropRecv
  | tryRecv =>
    have receives : (Move.tryRecv : Move Send Recv Waker T).receives = some none := rfl
    split at stepped
    · split at stepped
      · rename_i entry rest front
        cases stepped
        exact linked.effect_popFront receives front
      · cases stepped
        exact .ended receives nofun
    · cases stepped
  | pollNext waker =>
    rcases of_guard stepped with ⟨active, rfl⟩
    have receives : (Move.pollNext waker : Move Send Recv Waker T).receives =
      some (some .stream) := rfl
    exact linked.effect_pollReceive receives (fun _ => active) waker
  | deactivate =>
    rcases of_guard stepped with ⟨_, rfl⟩
    exact .deactivated
  | activate =>
    rcases of_guard stepped with ⟨inactive, rfl⟩
    exact .activated inactive
  | dropReceiver =>
    rcases of_unless stepped with ⟨present, rfl⟩
    unfold MpscState.dropReceiver
    split
    · rename_i active
      exact .receiverDropped active
    · rename_i inactive
      exact .inactiveDropped inactive
    · rename_i dropped
      exact (present dropped).elim
  | destroyChannel =>
    rcases of_guard stepped with ⟨⟨_, _, _, dropped⟩, rfl⟩
    exact .destroyed dropped
  | wake called =>
    rcases of_guard stepped with ⟨_, rfl⟩
    exact .woken

theorem keeps (effect : Effect state move next) : Linked next := by
  have nodup := linked.nodup
  cases effect with
  | counts | tryReturned | recvCreated =>
    exact { linked with }
  | closed =>
    refine ⟨linked.nodup, linked.alive, ?_, ?_⟩
    · intro waiting
      rcases linked.full waiting with ⟨active, full, nowaits⟩
      exact ⟨active, full, by simp [nowaits]⟩
    · intro node waits
      rcases Option.map_eq_some_iff.mp waits with ⟨before, waits, _⟩
      exact linked.empty before waits
  | sendCreated | looked | lookedDone | returned =>
    exact ⟨linked.nodup, linked.alive_update _ _ fun _ => .inl, linked.full, linked.empty⟩
  | delivered found polling waits drained nobody =>
    exact ⟨linked.nodup, linked.alive_update _ _ fun _ => .inl,
      fun waiting => (waiting nobody).elim, nofun⟩
  | buffered found polling nowaits nobody =>
    refine ⟨linked.nodup, linked.alive_update _ _ fun _ => .inl,
      fun waiting => (waiting nobody).elim, ?_⟩
    intro node waits
    exact nomatch nowaits.symm.trans waits
  | @suspended _ id _ _ found polling active nowaits full =>
    refine ⟨?_, linked.alive_update _ _ ?_, fun _ => ⟨active, full, nowaits⟩, ?_⟩
    · refine List.nodup_append.mpr ⟨linked.nodup.erase id, by simp, ?_⟩
      intro other member last single
      rw [List.mem_singleton] at single
      intro same
      subst same
      rw [single] at member
      exact linked.nodup.not_mem_erase member
    · intro other member
      rcases List.mem_append.mp member with kept | last
      · exact .inl (List.mem_of_mem_erase kept)
      · exact .inr (List.mem_singleton.mp last)
    · intro node waits
      exact nomatch nowaits.symm.trans waits
  | @dropSend _ id _ found =>
    refine ⟨linked.nodup.erase id, ?_, ?_, ?_⟩
    · intro other member
      have different : other ≠ id := by
        intro same
        subst same
        exact linked.nodup.not_mem_erase member
      simp only [Function.update_of_ne different]
      exact linked.alive other (List.mem_of_mem_erase member)
    · intro waiting
      apply linked.full
      intro nobody
      rw [nobody] at waiting
      exact waiting rfl
    · intro node waits
      rcases linked.empty node waits with ⟨drained, nobody⟩
      exact ⟨drained, by rw [nobody]; rfl⟩
  | tryDelivered waits drained nobody =>
    exact ⟨linked.nodup, linked.alive, fun waiting => (waiting nobody).elim, nofun⟩
  | tryBuffered nowaits nobody =>
    refine ⟨linked.nodup, linked.alive, fun waiting => (waiting nobody).elim, ?_⟩
    intro node waits
    exact nomatch nowaits.symm.trans waits
  | popped receives front nobody nowaits =>
    refine Linked.resolve ?_ _
    refine ⟨linked.nodup, linked.alive, fun waiting => (waiting nobody).elim, ?_⟩
    intro node waits
    exact nomatch nowaits.symm.trans waits
  | promoted receives front waiting found =>
    rw [waiting] at nodup
    rcases linked.full (by rw [waiting]; simp) with ⟨active, full, nowaits⟩
    rw [front] at full
    refine Linked.resolve ?_ _
    refine ⟨(List.nodup_cons.mp nodup).2, linked.alive_update _ _ ?_,
      fun _ => ⟨active, by simpa [MpscState.setSend] using full, nowaits⟩, ?_⟩
    · intro other member
      rw [waiting]
      exact .inl (List.mem_cons_of_mem _ member)
    · intro node waits
      exact nomatch nowaits.symm.trans waits
  | taken receives drained waiting found =>
    rw [waiting] at nodup
    rcases linked.full (by rw [waiting]; simp) with ⟨active, full, nowaits⟩
    refine Linked.resolve ?_ _
    refine ⟨(List.nodup_cons.mp nodup).2, linked.alive_update _ _ ?_,
      fun _ => ⟨active, full, nowaits⟩, ?_⟩
    · intro other member
      rw [waiting]
      exact .inl (List.mem_cons_of_mem _ member)
    · intro node waits
      exact nomatch nowaits.symm.trans waits
  | ended receives => exact linked.resolve _
  | @registered _ operation waker receives active drained nobody remaining =>
    cases operation <;>
      exact ⟨linked.nodup, linked.alive, fun waiting => (waiting nobody).elim,
        fun _ _ => ⟨drained, nobody⟩⟩
  | dropRecv =>
    refine ⟨linked.nodup, linked.alive, ?_, nofun⟩
    intro waiting
    rcases linked.full waiting with ⟨active, full, _⟩
    exact ⟨active, full, rfl⟩
  | deactivated => exact ⟨List.nodup_nil, nofun, (absurd rfl ·), nofun⟩
  | activated inactive | inactiveDropped inactive =>
    have nobody := linked.inactive_nobody (by rw [inactive]; nofun)
    exact ⟨linked.nodup, linked.alive, fun waiting => (waiting nobody).elim, linked.empty⟩
  | receiverDropped active =>
    exact ⟨List.nodup_nil, nofun, (absurd rfl ·),
      fun node waits => ⟨(linked.empty node waits).1, rfl⟩⟩
  | destroyed dropped =>
    have nobody := linked.inactive_nobody (by rw [dropped]; nofun)
    exact ⟨linked.nodup, linked.alive, fun waiting => (waiting nobody).elim,
      fun _ _ => ⟨rfl, nobody⟩⟩
  | woken =>
    refine ⟨linked.nodup, ?_, linked.full, linked.empty⟩
    intro id member
    rcases linked.alive id member with ⟨future, found⟩
    exact ⟨_, congrArg (Option.map _) found⟩

end Linked

theorem linked_of_reaches (reached :
    (mpscMachine Send Recv Waker T capacity).Reaches admits state) : Linked state := by
  refine reached.invariant Linked (fun _ _ _ linked _ stepped => ?_) ?_
  · exact linked.keeps (linked.effect stepped)
  · exact ⟨List.nodup_nil, nofun, (absurd rfl ·), nofun⟩

/-- However a channel is used, senders wait only behind a full buffer and the receiver only for
an empty one, so that never both wait; each sender that is linked is linked once and alive. -/
theorem one_side_waits (reached :
    (mpscMachine Send Recv Waker T capacity).Reaches anyMove state) :
    (state.senderWaiters = [] ∨ state.receiverWaiter = none) ∧
    (state.senderWaiters ≠ [] → state.receiver = .active ∧
      state.capacity ≤ state.buffer.length) ∧
    (state.receiverWaiter ≠ none → state.buffer = []) ∧
    state.senderWaiters.Nodup ∧ ∀ id ∈ state.senderWaiters, state.send id ≠ none := by
  have linked := linked_of_reaches reached
  refine ⟨?_, fun waits => ⟨(linked.full waits).1, (linked.full waits).2.1⟩, ?_, linked.nodup, ?_⟩
  · by_cases nobody : state.senderWaiters = []
    · exact .inl nobody
    · exact .inr (linked.full nobody).2.2
  · intro waits
    rcases Option.ne_none_iff_exists'.mp waits with ⟨node, is⟩
    exact (linked.empty node is).1
  · intro id member
    rcases linked.alive id member with ⟨future, is⟩
    rw [is]
    exact Option.some_ne_none future

end Effects

/-- A send waits behind the value of another one. -/
theorem one_side_waits_full : ∃ state : MpscState Unit Unit Unit Nat,
    (mpscMachine Unit Unit Unit Nat 1).Reaches anyMove state ∧
      state.senderWaiters = [()] ∧ (state.senderWaiters = [] ∨ state.receiverWaiter = none) := by
  exact exists_of_exec
    [.trySend 7, .send () 8, .pollLook () (), .pollSend ()]
    (by decide +kernel) fun reached => ⟨by decide +kernel, (one_side_waits reached).1⟩

end CoroRuntime.Mpsc
