import CoroRuntime.StreamIo.Futures

/-! # Exact reads and full writes -/

namespace CoroRuntime.StreamIo

open Foundation

/-! ## The handshake -/

theorem pollIo_pending (pended : pollIo io direction waker attempt stage = (after, .pending)) :
    io.ready direction = false ∧ after.slot direction = some waker := by
  cases stage with
  | pollReady =>
    simp only [pollIo, ScheduledIo.pollReady] at pended
    by_cases shutdown : io.shutdown
    · simp [shutdown] at pended
    by_cases ready : io.ready direction
    · simp [shutdown, ready] at pended
    simp only [shutdown, ready, Bool.false_eq_true, if_false, Prod.mk.injEq, and_true] at pended
    rw [← pended]
    exact ⟨by simpa using ready, io.slot_store⟩
  | op event =>
    unfold pollIo at pended
    simp only at pended
    split at pended <;> simp at pended
  | clearReady event => simp [pollIo] at pended

theorem pollIo_ok (returned : (pollIo io direction waker attempt stage).2 = .returned (.ok count)) :
    attempt = .ok count := by
  cases stage with
  | pollReady =>
    simp only [pollIo] at returned
    split at returned
    · simp at returned
    split at returned <;> simp at returned
  | op event =>
    simp only [pollIo] at returned
    split at returned
    · simp at returned
    simpa using returned
  | clearReady event => simp [pollIo] at returned

/-! ## A future -/

/-- The bytes that were transferred are the first ones of `source`, and they stand in the buffer
before what it held at first. -/
structure Placed (original source : List UInt8) (future : FdFuture Waker) : Prop where
  buf : future.buf = future.moved ++ original.drop future.moved.length
  count : future.count = future.moved.length
  fits : future.moved.length ≤ original.length
  inOrder : future.moved <+: source

structure Sound (original source : List UInt8) (atEnd : Prop) (future : FdFuture Waker) : Prop
    extends Placed original source future where
  inside : future.call.isSome → future.moved.length < original.length ∧ future.result = none
  ready : future.result = some .ready →
    future.moved.length = original.length ∨ atEnd ∧ future.moved = source

section Future

variable {future : FdFuture Waker}

variable (placed : Placed original source future)

include placed

theorem Placed.length : future.buf.length = original.length := by
  have fits := placed.fits
  rw [placed.buf, List.length_append, List.length_drop]
  omega

theorem Placed.loop (fresh : future.result = none) :
    Sound original source atEnd (future.loop waker) := by
  have length := placed.length
  have count := placed.count
  have fits := placed.fits
  unfold FdFuture.loop
  split
  · have below : future.moved.length < original.length := by omega
    exact { placed with inside := fun _ => ⟨below, fresh⟩, ready := by simp [fresh] }
  · have full : future.moved.length = original.length := by omega
    exact { placed with inside := nofun, ready := fun _ => .inl full }

omit placed in
theorem FdFuture.loop_moved : (future.loop waker).moved = future.moved := by
  unfold loop
  split <;> rfl

theorem Placed.loop_returned (fresh : future.result = none) :
    (future.loop waker).result.isSome ↔ future.moved.length = original.length := by
  have length := placed.length
  have count := placed.count
  have fits := placed.fits
  unfold FdFuture.loop
  split
  · simp only [fresh, Option.isSome_none, Bool.false_eq_true, false_iff]
    omega
  · simp only [FdFuture.finish, Option.isSome_some, true_iff]
    omega

theorem Placed.append (next : future.moved ++ chunk <+: source)
    (room : future.moved.length + chunk.length ≤ original.length) :
    Placed original source { future with
      buf := future.buf.take future.count ++ chunk ++ future.buf.drop (future.count + chunk.length)
      count := future.count + chunk.length
      moved := future.moved ++ chunk } where
  buf := by
    simp only
    rw [placed.buf, placed.count, List.take_left, List.drop_append, List.drop_drop,
      List.drop_eq_nil_of_le (by omega), List.length_append, Nat.add_sub_cancel_left,
      List.nil_append]
  count := by rw [List.length_append, placed.count]
  fits := by
    rw [List.length_append]
    exact room
  inOrder := next

end Future

/-! ## The stream -/

namespace Stream

def source (buf : IoDirection → List UInt8) (stream : Stream Waker) : IoDirection → List UInt8
  | .read => stream.arrived
  | .write => buf .write

/-- Nothing is left to transfer although the buffer is not used up. -/
def atEnd (stream : Stream Waker) : IoDirection → Prop
  | .read => stream.ended
  | .write => False

/-- What is known of the futures in a reachable state; `buf` are the buffers they were made
with. -/
structure ExactTransfers (buf : IoDirection → List UInt8) (stream : Stream Waker) : Prop where
  /-- The next bytes of the stream are in the buffer, and exactly those were consumed. -/
  reads : (stream.future .read).moved <+: stream.arrived ∧ (stream.future .read).buf =
    (stream.future .read).moved ++ (buf .read).drop (stream.future .read).moved.length
  readsAll : ∀ count, count = min (buf .read).length stream.arrived.length →
    (stream.future .read).result = some .ready →
    FdReadFuture.output (stream.future .read) =
        (count, stream.arrived.take count ++ (buf .read).drop count) ∧
      (stream.future .read).moved.length = count ∧ (count < (buf .read).length → stream.ended)
  writes : (stream.future .write).moved <+: buf .write ∧ (stream.future .write).buf = buf .write
  writesAll : (stream.future .write).result = some .ready →
    (stream.future .write).moved = buf .write
  /-- An attempt that succeeds brings the future on by what it transfers, and completes it if
  nothing is left to transfer. -/
  progress : ∀ direction waker event count next,
    (stream.future direction).call = some (waker, .op event) →
    withinContract stream (.advance direction (.ok count)) →
    stream.step true (.advance direction (.ok count)) = some next →
    (next.future direction).moved.length = (stream.future direction).moved.length + count ∧
      ((next.future direction).result.isSome ↔
        count = 0 ∨ (next.future direction).moved.length = (buf direction).length)
  stopped : ∀ direction, (stream.future direction).result.isSome → ∀ initial moves final,
    (streamMachine true initial).Path withinContract stream moves final →
    final.future direction = stream.future direction
  pending : ∀ direction waker stage attempt next,
    (stream.future direction).call = some (waker, stage) →
    withinContract stream (.advance direction attempt) →
    stream.step true (.advance direction attempt) = some next →
    (next.future direction).call = none → (next.future direction).result = none →
    stream.io.ready direction = false ∧ next.io.slot direction = some waker

def Transferring (buf : IoDirection → List UInt8) (stream : Stream Waker) : Prop :=
  ∀ direction, Sound (buf direction) (stream.source buf direction) (stream.atEnd direction)
    (stream.future direction)

namespace Transferring

variable {stream next : Stream Waker} (transferring : Transferring buf stream)

include transferring

theorem written : (stream.future .write).buf = buf .write := by
  rcases (transferring .write).inOrder with ⟨rest, split⟩
  rw [source] at split
  rw [(transferring .write).buf, ← split, List.drop_left]

theorem left_eq (direction : IoDirection) : stream.left direction =
    (stream.source buf direction).drop (stream.future direction).moved.length := by
  cases direction with
  | read => rfl
  | write => rw [left, transferring.written, (transferring .write).count, source]

theorem next_inOrder (direction : IoDirection) (count : Nat) :
    (stream.future direction).moved ++ (stream.left direction).take count <+:
      stream.source buf direction := by
  rcases (transferring direction).inOrder with ⟨rest, split⟩
  rw [transferring.left_eq, ← split, List.drop_left, List.prefix_append_right_inj]
  exact List.take_prefix ..

/-- After an operation that has succeeded, the loop goes on behind the bytes it transferred,
unless there were none. -/
theorem resume_ok (called : (stream.future direction).call.isSome)
    (admitted : withinContract stream (.advance direction (.ok count))) :
    (count = 0 ∧ stream.atEnd direction ∧
      (stream.future direction).moved = stream.source buf direction ∧
      stream.resume true direction waker (.returned (.ok count)) =
        (stream.future direction).finish .ready) ∨
    (0 < count ∧ ∃ after, Placed (buf direction) (stream.source buf direction) after ∧
      after.result = none ∧ after.moved.length = (stream.future direction).moved.length + count ∧
      stream.resume true direction waker (.returned (.ok count)) = after.loop waker) := by
  have sound := transferring direction
  have inside := sound.inside called
  rcases admitted with ⟨room, there, atEnd⟩
  have length : ((stream.left direction).take count).length = count :=
    List.length_take_of_le there
  rw [sound.length, sound.count] at room
  have placed := sound.append (transferring.next_inOrder direction count) (by omega)
  have total : ((stream.future direction).moved ++ (stream.left direction).take count).length =
      (stream.future direction).moved.length + count := by
    rw [List.length_append, length]
  by_cases none : count = 0
  · rcases atEnd none with ⟨rfl, ended, nothing⟩
    rcases sound.inOrder with ⟨rest, split⟩
    rw [transferring.left_eq, ← split, List.drop_left] at nothing
    rw [nothing, List.append_nil] at split
    refine .inl ⟨none, ended, split, ?_⟩
    rw [Stream.resume, FdReadFuture.received, if_pos (length.trans none)]
  · refine .inr ⟨Nat.pos_of_ne_zero none, ?_⟩
    cases direction with
    | read =>
      refine ⟨_, placed, inside.2, total, ?_⟩
      rw [Stream.resume, FdReadFuture.received, if_neg (by rw [length]; exact none)]
      rfl
    | write =>
      have same : (stream.future .write).buf.take (stream.future .write).count ++
          (stream.left .write).take count ++
          (stream.future .write).buf.drop ((stream.future .write).count +
            ((stream.left .write).take count).length) = (stream.future .write).buf := by
        rw [length, left, ← List.take_add, List.take_append_drop]
      rw [same] at placed
      exact ⟨_, placed, inside.2, total, rfl⟩

theorem resume (called : (stream.future direction).call.isSome)
    (admitted : ∀ count, outcome = .returned (.ok count) →
      withinContract stream (.advance direction (.ok count))) :
    Sound (buf direction) (stream.source buf direction) (stream.atEnd direction)
      (stream.resume true direction waker outcome) := by
  have sound := transferring direction
  have inside := sound.inside called
  cases outcome with
  | inside stage => exact { sound with inside := fun _ => inside }
  | pending => exact { sound with inside := nofun }
  | returned result =>
    cases result with
    | error errno => exact { sound with inside := nofun, ready := nofun }
    | ok count =>
      rcases transferring.resume_ok called (admitted count rfl) with
        ⟨_, atEnd, all, after⟩ | ⟨_, _, placed, fresh, _, after⟩ <;> rw [after]
      · exact { sound with inside := nofun, ready := fun _ => .inr ⟨atEnd, all⟩ }
      · exact placed.loop fresh

theorem extend (same : next.future = stream.future) (grown : stream.arrived <+: next.arrived)
    (final : stream.ended → next.ended ∧ next.arrived = stream.arrived) :
    Transferring buf next := by
  intro direction
  rw [same]
  cases direction with
  | write => exact transferring .write
  | read =>
    have sound := transferring .read
    refine { sound with inOrder := sound.inOrder.trans grown, ready := ?_ }
    intro ready
    refine (sound.ready ready).imp_right ?_
    intro ⟨ended, all⟩
    exact ⟨(final ended).1, all.trans (final ended).2.symm⟩

theorem replace (sound : Sound (buf direction) (stream.source buf direction)
      (stream.atEnd direction) after) :
    Transferring buf { stream with
      io := driver, future := Function.update stream.future direction after } := by
  intro other
  by_cases here : other = direction
  · subst here
    simp only [Function.update_self]
    cases other <;> exact sound
  · simp only [Function.update_of_ne here]
    cases other <;> exact transferring _

theorem step (admitted : withinContract stream move)
    (stepped : stream.step true move = some next) : Transferring buf next := by
  cases move with
  | arrive bytes =>
    cases stepped
    have going : stream.ended = false := admitted
    exact transferring.extend rfl (List.prefix_append ..) (by simp [going])
  | close =>
    cases stepped
    exact transferring.extend rfl List.prefix_rfl fun _ => ⟨rfl, rfl⟩
  | dispatch event | shutDown =>
    cases stepped
    exact transferring.extend rfl List.prefix_rfl fun ended => ⟨ended, rfl⟩
  | poll direction waker =>
    cases stepped
    exact transferring.replace
      ((transferring direction).loop (Option.isNone_iff_eq_none.mp admitted.2))
  | advance direction attempt =>
    rcases Option.map_eq_some_iff.mp stepped with ⟨⟨waker, stage⟩, running, rfl⟩
    refine transferring.replace
      (transferring.resume (Option.isSome_of_eq_some running) ?_)
    intro count returned
    rw [pollIo_ok returned] at admitted
    exact admitted

theorem settled (returned : (stream.future direction).result.isSome)
    (admitted : withinContract stream move) (stepped : stream.step true move = some next) :
    next.future direction = stream.future direction := by
  cases move with
  | arrive bytes | close | dispatch event | shutDown =>
    cases stepped
    rfl
  | poll polled waker =>
    cases stepped
    refine Function.update_of_ne ?_ ..
    rintro rfl
    rw [Option.isNone_iff_eq_none.mp admitted.2] at returned
    cases returned
  | advance advanced attempt =>
    rcases Option.map_eq_some_iff.mp stepped with ⟨⟨waker, stage⟩, running, rfl⟩
    refine Function.update_of_ne ?_ ..
    rintro rfl
    rw [((transferring direction).inside (Option.isSome_of_eq_some running)).2] at returned
    cases returned

theorem stopped (returned : (stream.future direction).result.isSome)
    (path : (streamMachine true initial).Path withinContract stream moves final) :
    final.future direction = stream.future direction := by
  have kept := path.invariant (fun later => Transferring buf later ∧
    later.future direction = stream.future direction) ?_ ⟨transferring, rfl⟩
  · exact kept.2
  · intro later move next ⟨held, same⟩ admitted stepped
    rw [← same] at returned
    exact ⟨held.step admitted stepped, (held.settled returned admitted stepped).trans same⟩

theorem exactTransfers : ExactTransfers buf stream where
  reads := ⟨(transferring .read).inOrder, (transferring .read).buf⟩
  readsAll := by
    intro count is ready
    have reading := transferring .read
    have fits := reading.fits
    have arrived : (stream.future .read).moved.length ≤ stream.arrived.length :=
      reading.inOrder.length_le
    have size : (stream.future .read).moved.length = count ∧
        (count < (buf .read).length → stream.ended) := by
      rcases reading.ready ready with full | ⟨ended, all⟩
      · exact ⟨by omega, by omega⟩
      · rw [all, source] at fits ⊢
        exact ⟨by omega, fun _ => ended⟩
    have taken : (stream.future .read).moved = stream.arrived.take count := by
      rw [← size.1]
      exact List.prefix_iff_eq_take.mp reading.inOrder
    refine ⟨?_, size⟩
    rw [FdReadFuture.output, reading.count, reading.buf, size.1, taken]
  writes := ⟨(transferring .write).inOrder, transferring.written⟩
  writesAll := by
    intro ready
    rcases (transferring .write).ready ready with full | ⟨atEnd, _⟩
    · exact (transferring .write).inOrder.eq_of_length full
    · exact atEnd.elim
  progress := by
    intro direction waker event count next running admitted stepped
    have called := Option.isSome_of_eq_some running
    rcases Option.map_eq_some_iff.mp stepped with ⟨place, running', rfl⟩
    cases running.symm.trans running'
    simp only [pollIo, Function.update_self]
    rcases transferring.resume_ok called admitted with
      ⟨none, _, _, after⟩ | ⟨some, _, placed, fresh, total, after⟩ <;> rw [after]
    · rw [none]
      simp [FdFuture.finish]
    · rw [FdFuture.loop_moved, placed.loop_returned fresh]
      exact ⟨total, by omega⟩
  stopped := fun _ returned _ _ _ path => transferring.stopped returned path
  pending := by
    intro direction waker stage attempt next running admitted stepped quiet unfinished
    rcases Option.map_eq_some_iff.mp stepped with ⟨place, called, rfl⟩
    cases called.symm.trans running
    rcases taken : pollIo stream.io direction waker attempt stage with ⟨io, outcome⟩
    simp only [taken, Function.update_self] at quiet unfinished ⊢
    cases outcome with
    | inside => cases quiet
    | pending => exact pollIo_pending taken
    | returned result =>
      cases result with
      | error => cases unfinished
      | ok count =>
        have same : attempt = .ok count := pollIo_ok (by rw [taken])
        subst same
        rcases transferring.resume_ok (Option.isSome_of_eq_some running) admitted with
          ⟨_, _, _, after⟩ | ⟨_, _, placed, fresh, _, after⟩ <;> rw [after] at quiet unfinished
        · cases unfinished
        · unfold FdFuture.loop at quiet unfinished
          split at quiet
          · cases quiet
          · rename_i above
            rw [if_neg above] at unfinished
            cases unfinished

end Transferring

end Stream

theorem exact_transfers (io : ScheduledIo Waker) (buf : IoDirection → List UInt8)
    (arrived : List UInt8) (ended : Bool) (stream : Stream Waker)
    (reached : (streamMachine true (.fresh io buf arrived ended)).Reaches withinContract stream) :
    stream.ExactTransfers buf := by
  have transferring : stream.Transferring buf := by
    refine reached.invariant _ (fun _ _ _ held admitted stepped => held.step admitted stepped) ?_
    intro direction
    exact { buf := rfl, count := rfl, fits := Nat.zero_le _, inOrder := List.nil_prefix
            inside := nofun, ready := nofun }
  exact transferring.exactTransfers

private def blocked : IoResult := .error .wouldBlock

/-- The read meets a would-block and then the end of the stream, the write is a short one. -/
theorem exact_transfers_short :
    ∃ stream : Stream Nat,
      ((stream.future .read).result = some .ready ∧ (stream.future .write).result = some .ready) ∧
      stream.ExactTransfers fun direction => if direction = .read then [0, 0, 0] else [7, 8] := by
  have reached := (streamMachine true (.fresh ({} : ScheduledIo Nat)
    (fun direction => if direction = .read then [0, 0, 0] else [7, 8]) [] false)).reaches_exec
    withinContract
    [.poll .read 5, .advance .read blocked, .advance .read blocked, .advance .read blocked,
      .advance .read blocked, .arrive [1, 2], .close, .dispatch { readable := true },
      .poll .read 6, .advance .read blocked, .advance .read (.ok 2), .advance .read blocked,
      .advance .read (.ok 0), .poll .write 9, .advance .write blocked, .advance .write (.ok 1),
      .advance .write blocked, .advance .write (.ok 1)] (by decide +kernel)
  exact ⟨_, ⟨by decide +kernel, by decide +kernel⟩, exact_transfers _ _ _ _ _ reached⟩

end CoroRuntime.StreamIo
