import CoroRuntime.WebSocket.Sends
import Mathlib.Data.List.Nodup

/-! # A send is written once or not at all

The sends that were written, the one that is about to be and those in the queue, in this order,
are among those that were queued. What else is known about a send depends on which of these it
is.
-/

namespace CoroRuntime.WebSocket

open Foundation

variable {Byte : Type u} {Waker : Type v} {messages : Nat → Message Byte}
  {connection next : Connection Byte Waker} {index : Nat}

/-- The send whose frame `on_writeable()` has taken and not written yet. -/
def Connection.unwritten (connection : Connection Byte Waker) : List Nat :=
  match connection.writing with
  | some { index, result := none, .. } => [index]
  | _ => []

def Connection.taken (connection : Connection Byte Waker) : List Nat :=
  connection.written.map Written.index ++ connection.unwritten

structure SendInv (message : Message Byte) (connection : Connection Byte Waker) (index : Nat)
    (send : SendFuture Byte Waker) : Prop where
  message : send.data = message.data ∧ send.node.isText = message.isText
  unstarted : send.started = false → send.node.complete = false ∧ send.waiting = none ∧
    send.withdrawn = false ∧ index ∉ connection.queue ∧ connection.inFlight ≠ some index
  polling : send.polling → send.started = false ∧ send.dropped = false ∧
    send.node.frame = some send.data ∧ send.node.size = send.data.length
  queue : index ∈ connection.queue → send.dropped = false ∧ send.node.complete = false ∧
    send.node.frame = some send.data ∧ send.node.size = send.data.length
  inFlight : connection.inFlight = some index → send.dropped = false ∧ send.node.complete = false
  settled : send.started → send.dropped = false → index ∈ connection.queue ∨
    connection.inFlight = some index ∨ send.node.complete
  completions : send.completions = send.node.complete.toNat
  written : send.node.complete → send.node.error = none →
    ∃ written ∈ connection.written, written.index = index ∧ written.ok
  withdrawn : send.withdrawn → send.dropped ∧ index ∉ connection.taken
  success : send.result = some .ready → send.node.complete ∧ send.node.error = none
  waits : ∀ waker, send.waiting = some waker → send.woken = false → send.dropped = false →
    send.node.complete = false ∧ send.node.waker = some waker ∨ (index, waker) ∈ connection.wakes

structure Shared (messages : Nat → Message Byte) (connection : Connection Byte Waker) :
    Prop where
  order : (connection.taken ++ connection.queue).Sublist connection.queued
  nodup : connection.queued.Nodup
  queued : ∀ index, index ∈ connection.queued ↔ (connection.sends index).started
  written : ∀ written ∈ connection.written, written.message = messages written.index
  writing : ∀ writing, connection.writing = some writing →
    writing.message = messages writing.index ∧
    (∀ ok, writing.result = some ok → ∃ written ∈ connection.written,
      written.index = writing.index ∧ written.ok = ok)
  inFlight : ∀ index, connection.inFlight = some index →
    ∃ writing, connection.writing = some writing ∧ writing.index = index
  closed : connection.close = .idle ↔ connection.closed = false
  drained : connection.close = .drained → connection.queue = []
  misused : connection.misused = false

structure Inv (messages : Nat → Message Byte) (connection : Connection Byte Waker) : Prop where
  shared : Shared messages connection
  send : ∀ index, SendInv (messages index) connection index (connection.sends index)

/-! ## Sends that are left alone -/

/-- Nothing that concerns the send changes, except that more may have been written or woken. -/
theorem SendInv.keep {message : Message Byte} (inv : SendInv message connection index send)
    (queue : index ∈ next.queue ↔ index ∈ connection.queue)
    (inFlight : next.inFlight = some index ↔ connection.inFlight = some index)
    (written : ∀ written ∈ connection.written, written ∈ next.written)
    (taken : send.withdrawn → index ∈ next.taken → index ∈ connection.taken)
    (wakes : ∀ waker, (index, waker) ∈ connection.wakes → (index, waker) ∈ next.wakes ) :
    SendInv message next index send where
  message := inv.message
  unstarted fresh := by
    rw [ne_eq, queue, inFlight]
    exact inv.unstarted fresh
  polling := inv.polling
  queue inside := inv.queue (queue.mp inside)
  inFlight is := inv.inFlight (inFlight.mp is)
  settled started alive := by
    rw [queue, inFlight]
    exact inv.settled started alive
  completions := inv.completions
  written complete error := by
    rcases inv.written complete error with ⟨found, member, rest⟩
    exact ⟨found, written found member, rest⟩
  withdrawn is := ⟨(inv.withdrawn is).1, fun inside => (inv.withdrawn is).2 (taken is inside)⟩
  success := inv.success
  waits waker waiting unwoken alive :=
    (inv.waits waker waiting unwoken alive).imp_right (wakes waker)

theorem Inv.change (inv : Inv messages connection) {send : SendFuture Byte Waker}
    (sends : next.sends = Function.update connection.sends index send)
    (shared : Shared messages next) (new : SendInv (messages index) next index send)
    (queue : ∀ other, other ≠ index → (other ∈ next.queue ↔ other ∈ connection.queue))
    (inFlight : ∀ other, other ≠ index →
      (next.inFlight = some other ↔ connection.inFlight = some other))
    (written : ∀ written ∈ connection.written, written ∈ next.written)
    (taken : ∀ other, other ≠ index → other ∈ next.taken → other ∈ connection.taken)
    (wakes : ∀ other waker, other ≠ index → (other, waker) ∈ connection.wakes →
      (other, waker) ∈ next.wakes) :
    Inv messages next where
  shared := shared
  send other := by
    rw [sends, Function.update_apply]
    split
    · rename_i same
      exact same ▸ new
    · rename_i different
      exact (inv.send other).keep (queue other different) (inFlight other different) written
        (fun _ => taken other different) fun waker => wakes other waker different

theorem Shared.started (shared : Shared messages connection)
    (started : send.started = (connection.sends index).started) (other : Nat) :
    other ∈ connection.queued ↔ (Function.update connection.sends index send other).started := by
  rw [shared.queued other, Function.update_apply]
  split
  · rename_i same
    rw [same, started]
  · rfl

theorem Inv.setSend (inv : Inv messages connection) {send : SendFuture Byte Waker}
    (started : send.started = (connection.sends index).started)
    (new : SendInv (messages index) connection index send) :
    Inv messages (connection.setSend index send) := by
  refine inv.change rfl { inv.shared with queued := inv.shared.started started } ?_
    (fun _ _ => .rfl) (fun _ _ => .rfl) (fun _ => id) (fun _ _ => id) (fun _ _ _ => id)
  exact new.keep .rfl .rfl (fun _ => id) (fun _ => id) (fun _ => id)

/-! ## Futures -/

section Futures

variable {message : Message Byte} {send : SendFuture Byte Waker}

variable (inv : SendInv message connection index send)

include inv

theorem SendInv.resolve (success : result = .ready → send.node.complete ∧ send.node.error = none) :
    SendInv message connection index (send.resolve result) :=
  { inv with
    unstarted := fun fresh =>
      ⟨(inv.unstarted fresh).1, rfl, (inv.unstarted fresh).2.2⟩
    polling := nofun
    success := fun is => success (Option.some.inj is)
    waits := nofun }

theorem SendInv.pollAgain (waker : Waker) (started : send.started) :
    SendInv message connection index (send.pollAgain waker) := by
  rw [SendFuture.pollAgain]
  split
  · rename_i complete
    split
    · exact inv.resolve nofun
    · rename_i error
      exact inv.resolve fun _ => ⟨complete, error⟩
  · rename_i incomplete
    exact { inv with
      unstarted := fun fresh => nomatch started.symm.trans fresh
      polling := nofun
      waits := by
        rintro _ ⟨⟩ - -
        exact .inl ⟨eq_false_of_ne_true incomplete, rfl⟩ }

theorem SendInv.prepare (waker : Waker) (fresh : send.started = false)
    (alive : send.dropped = false) : SendInv message connection index (send.prepare waker) :=
  { inv with
    unstarted := fun _ => ⟨(inv.unstarted fresh).1, rfl, (inv.unstarted fresh).2.2⟩
    polling := fun _ => ⟨fresh, alive, rfl, rfl⟩
    queue := fun inside => absurd inside (inv.unstarted fresh).2.2.2.1
    waits := nofun }

end Futures

theorem Inv.poll (inv : Inv messages connection) (alive : (connection.sends index).dropped = false)
    (waker : Waker) : Inv messages (connection.poll index waker) := by
  have old := inv.send index
  rw [Connection.poll]
  split
  · rename_i started
    refine inv.setSend ?_ (old.pollAgain waker started)
    rw [SendFuture.pollAgain]
    split
    · split <;> rfl
    · rfl
  · rename_i fresh
    split
    · exact inv.setSend rfl (old.resolve nofun)
    · exact inv.setSend rfl (old.prepare waker (by simpa using fresh) alive)

theorem Inv.enqueue (inv : Inv messages connection) (polling : (connection.sends index).polling) :
    Inv messages (connection.enqueue index) := by
  have old := inv.send index
  rcases old.polling polling with ⟨fresh, alive, frame, size⟩
  rw [Connection.enqueue]
  split
  · exact inv.setSend rfl (old.resolve nofun)
  · rename_i isOpen
    have unqueued : index ∉ connection.queued := by
      rw [inv.shared.queued, fresh]
      exact Bool.false_ne_true
    have idle : connection.close = .idle := by
      rw [inv.shared.closed]
      exact eq_false_of_ne_true isOpen
    have incomplete := (old.unstarted fresh).1
    have shared : Shared messages { connection.setSend index
        ({ connection.sends index with started := true }.pend
          (connection.sends index).node.waker) with
        queue := connection.queue ++ [index]
        queued := connection.queued ++ [index] } := { inv.shared with
      order := by
        have extended := inv.shared.order.append (.refl [index])
        rwa [List.append_assoc] at extended
      nodup := by
        rw [List.nodup_append]
        refine ⟨inv.shared.nodup, List.nodup_singleton _, ?_⟩
        rintro other member _ inside rfl
        exact unqueued (List.mem_singleton.mp inside ▸ member)
      queued other := by
        simp only [Connection.setSend, List.mem_append, List.mem_singleton, Function.update_apply]
        split
        · rename_i same
          simp [same, SendFuture.pend]
        · rename_i different
          simp [different, inv.shared.queued]
      drained is := nomatch idle.symm.trans is }
    refine inv.change rfl shared { old with
      unstarted := nofun
      polling := nofun
      queue := fun _ => ⟨alive, incomplete, frame, size⟩
      settled := fun _ _ => .inl List.mem_concat_self
      waits := fun waker is _ _ => .inl ⟨incomplete, is⟩ } ?_ (fun _ _ => .rfl) (fun _ => id)
      (fun _ _ => id) (fun _ _ _ => id)
    intro other different
    simp [different]

/-! ## The queue -/

section

variable (shared : Shared messages connection)

include shared

theorem Shared.distinct :
    (connection.taken ++ connection.queue).Nodup :=
  shared.nodup.sublist shared.order

theorem Shared.not_taken (inside : index ∈ connection.queue) : index ∉ connection.taken := by
  intro taken
  exact (List.nodup_append.mp shared.distinct).2.2 index taken index inside rfl

theorem Shared.started_of_queue
    (inside : index ∈ connection.queue) : (connection.sends index).started := by
  rw [← shared.queued]
  exact shared.order.mem (List.mem_append_right _ inside)

theorem Shared.inFlight_taken
    (flying : connection.inFlight = some index) : index ∈ connection.taken := by
  rcases shared.inFlight index flying with ⟨⟨_, message, result⟩, writing, rfl⟩
  cases result with
  | none => simp [Connection.taken, Connection.unwritten, writing]
  | some ok =>
    rcases (shared.writing _ writing).2 ok rfl with ⟨entry, member, same, -⟩
    exact List.mem_append_left _ (List.mem_map.mpr ⟨entry, member, same⟩)

end

section

variable (inv : Inv messages connection)

include inv

theorem Inv.drop (settled : (connection.sends index).polling = false) :
    Inv messages (connection.drop index) := by
  have old := inv.send index
  have shared := inv.shared
  have distinct := (List.nodup_append.mp shared.distinct).2.1
  rw [Connection.drop]
  split
  · rename_i started
    refine inv.change rfl { shared with
      order := (List.Sublist.append_left List.erase_sublist _).trans shared.order
      queued := shared.started rfl
      inFlight := fun other is => ?_
      drained := fun is => ?_ } { old with
        unstarted := fun fresh => nomatch started.symm.trans fresh
        polling := fun is => nomatch settled.symm.trans is
        queue := fun inside => absurd inside distinct.not_mem_erase
        inFlight := fun is => ?_
        settled := nofun
        withdrawn := fun is => ⟨rfl, shared.not_taken (of_decide_eq_true is)⟩
        waits := nofun } ?_ ?_ (fun _ => id) (fun _ _ => id) (fun _ _ _ => id)
    · simp only at is
      split at is
      · cases is
      · exact shared.inFlight other is
    · simp [shared.drained is]
    · simp only at is
      split at is
      · cases is
      · rename_i different
        exact absurd is different
    · exact fun other different => List.mem_erase_of_ne different
    · intro other different
      simp only
      split
      · rename_i is
        simp [is, Ne.symm different]
      · exact .rfl
  · rename_i fresh
    have fresh := eq_false_of_ne_true fresh
    exact inv.setSend rfl { old with
      polling := fun is => nomatch settled.symm.trans is
      queue := fun inside => absurd inside (old.unstarted fresh).2.2.2.1
      inFlight := fun is => absurd is (old.unstarted fresh).2.2.2.2
      settled := nofun
      withdrawn := fun is => nomatch (old.unstarted fresh).2.2.1.symm.trans is
      waits := nofun }

theorem Inv.writeable (idle : connection.writing = none) : Inv messages connection.writeable := by
  have shared := inv.shared
  rw [Connection.writeable]
  split
  · exact inv
  · split
    · exact inv
    · rename_i index rest queue
      have old := inv.send index
      rcases old.queue (queue ▸ List.mem_cons_self) with ⟨alive, incomplete, frame, size⟩
      have grounded : connection.inFlight = none := by
        by_contra flying
        rcases Option.ne_none_iff_exists'.mp flying with ⟨other, is⟩
        rcases shared.inFlight other is with ⟨writing, there, -⟩
        cases idle.symm.trans there
      have taken : connection.taken = connection.written.map Written.index := by
        simp [Connection.taken, Connection.unwritten, idle]
      have started := shared.started_of_queue (queue ▸ List.mem_cons_self)
      have order := shared.order
      have distinct := shared.distinct
      rw [taken, queue] at order distinct
      have unqueued : index ∉ rest := (List.nodup_cons.mp (List.nodup_append.mp distinct).2.1).1
      refine inv.change rfl { shared with
        order := ?_
        queued := shared.started rfl
        writing := ?_
        inFlight := fun other is => ⟨_, rfl, Option.some.inj is⟩
        drained := fun is => ?_
        misused := by simp [shared.misused, alive] } { old with
          unstarted := fun fresh => nomatch started.symm.trans fresh
          polling := fun is => nomatch started.symm.trans (old.polling is).1
          queue := fun inside => absurd inside unqueued
          inFlight := fun _ => ⟨alive, incomplete⟩
          settled := fun _ _ => .inr (.inl rfl)
          withdrawn := fun is => nomatch alive.symm.trans (old.withdrawn is).1 } ?_ ?_
          (fun _ => id) ?_ (fun _ _ _ => id)
      · simpa [Connection.taken, Connection.unwritten, Connection.setSend] using order
      · rintro _ ⟨⟩
        refine ⟨?_, nofun⟩
        simp [frame, size, old.message.1, old.message.2]
      · cases queue.symm.trans (shared.drained is)
      · intro other different
        simp [queue, different]
      · intro other different
        simp [grounded, Ne.symm different]
      · intro other different
        simp [Connection.taken, Connection.unwritten, Connection.setSend, idle, different]

theorem Inv.lwsWrite (writing : connection.writing = some { index, message }) (ok : Bool) :
    Inv messages { connection with
      writing := some { index, message, result := some ok }
      written := connection.written ++ [{ index, message, ok }] } := by
  have shared := inv.shared
  rcases shared.writing _ writing with ⟨own, -⟩
  have taken : Connection.taken { connection with
      writing := some { index, message, result := some ok }
      written := connection.written ++ [{ index, message, ok }] } = connection.taken := by
    simp [Connection.taken, Connection.unwritten, writing]
  refine ⟨{ shared with
    order := ?_
    written := ?_
    writing := ?_
    inFlight := ?_ }, ?_⟩
  · rw [taken]
    exact shared.order
  · intro written member
    rcases List.mem_append.mp member with old | new
    · exact shared.written written old
    · cases List.mem_singleton.mp new
      exact own
  · rintro _ ⟨⟩
    refine ⟨own, ?_⟩
    rintro _ ⟨⟩
    exact ⟨{ index, message, ok }, List.mem_concat_self, rfl, rfl⟩
  · intro other is
    rcases shared.inFlight other is with ⟨old, there, same⟩
    cases writing.symm.trans there
    exact ⟨_, rfl, same⟩
  · intro other
    refine (inv.send other).keep .rfl .rfl ?_ ?_ (fun _ => id)
    · exact fun _ member => List.mem_append_left _ member
    · intro _ inside
      exact taken ▸ inside

omit inv in
theorem SendInv.complete {message : Message Byte} (old : SendInv message connection index send)
    (started : send.started) (incomplete : send.node.complete = false) (queue : index ∉ next.queue)
    (inFlight : next.inFlight ≠ some index)
    (written : error = none → ∃ written ∈ next.written, written.index = index ∧ written.ok)
    (taken : index ∈ next.taken → index ∈ connection.taken)
    (wakes : next.wakes = connection.wakes ++
      (send.node.waker.map fun waker => (index, waker)).toList) :
    SendInv message next index (send.complete error) where
  message := old.message
  unstarted fresh := nomatch started.symm.trans fresh
  polling is := nomatch started.symm.trans (old.polling is).1
  queue inside := absurd inside queue
  inFlight is := absurd is inFlight
  settled _ _ := .inr (.inr rfl)
  completions := by
    simp [SendFuture.complete, old.completions, incomplete]
  written _ is := written is
  withdrawn is := ⟨(old.withdrawn is).1, fun inside => (old.withdrawn is).2 (taken inside)⟩
  success is := nomatch incomplete.symm.trans (old.success is).1
  waits waker waiting unwoken alive := by
    right
    rw [wakes]
    rcases old.waits waker waiting unwoken alive with ⟨-, stored⟩ | inside
    · exact List.mem_append_right _ (by simp [stored])
    · exact List.mem_append_left _ inside

theorem Inv.record (writing : connection.writing = some { index, message, result := some ok }) :
    Inv messages (connection.record ok) := by
  have shared := inv.shared
  have taken : connection.taken = connection.written.map Written.index := by
    simp [Connection.taken, Connection.unwritten, writing]
  rcases shared.writing _ writing with ⟨-, result⟩
  rcases result ok rfl with ⟨entry, member, same, outcome⟩
  rw [Connection.record]
  split
  · rename_i grounded
    refine ⟨{ shared with
      order := ?_
      writing := nofun
      inFlight := fun other is => nomatch grounded.symm.trans is }, ?_⟩
    · simpa [Connection.taken, Connection.unwritten, writing] using shared.order
    · intro other
      refine (inv.send other).keep .rfl .rfl (fun _ => id) (fun _ inside => ?_) (fun _ => id)
      rw [taken]
      simpa [Connection.taken, Connection.unwritten] using inside
  · rename_i flying is
    obtain rfl : index = flying := by
      rcases shared.inFlight flying is with ⟨other, there, own⟩
      cases writing.symm.trans there
      exact own
    have old := inv.send index
    rcases old.inFlight is with ⟨alive, incomplete⟩
    have gone := shared.inFlight_taken is
    have unqueued : index ∉ connection.queue := fun inside => shared.not_taken inside gone
    have started : (connection.sends index).started := by
      rw [← shared.queued]
      exact shared.order.mem (List.mem_append_left _ gone)
    refine inv.change rfl { shared with
      order := ?_
      queued := shared.started rfl
      writing := nofun
      inFlight := nofun
      misused := by simp [shared.misused, alive] } ?_ (fun _ _ => .rfl) ?_ (fun _ => id) ?_ ?_
    · simpa [Connection.taken, Connection.unwritten, Connection.setSend, writing] using shared.order
    · apply old.complete started incomplete
      · exact unqueued
      · exact nofun
      · intro success
        refine ⟨entry, member, same, ?_⟩
        rw [outcome]
        by_contra failed
        simp [failed] at success
      · exact fun _ => gone
      · rfl
    · intro other different
      simp [is, Ne.symm different]
    · intro other different
      simp [Connection.taken, Connection.unwritten, Connection.setSend, writing]
    · exact fun _ _ _ inside => List.mem_append_left _ inside

/-! ## Closing -/

theorem Inv.fail (queue : connection.queue = index :: rest) (marked : connection.close = .marked) :
    Inv messages { connection.fail index with queue := rest } := by
  have shared := inv.shared
  have old := inv.send index
  rcases old.queue (queue ▸ List.mem_cons_self) with ⟨alive, incomplete, -⟩
  have started := shared.started_of_queue (queue ▸ List.mem_cons_self)
  have order := shared.order
  have distinct := shared.distinct
  rw [queue] at order distinct
  have unqueued : index ∉ rest := (List.nodup_cons.mp (List.nodup_append.mp distinct).2.1).1
  refine inv.change rfl { shared with
    order := (List.Sublist.append_left (List.sublist_cons_self _ _) _).trans order
    queued := shared.started rfl
    drained := fun is => nomatch marked.symm.trans is
    misused := by simp [Connection.fail, shared.misused, alive] }
    (old.complete started incomplete unqueued ?_ nofun id rfl) ?_ (fun _ _ => .rfl) (fun _ => id)
    (fun _ _ => id) ?_
  · intro flying
    exact shared.not_taken (queue ▸ List.mem_cons_self) (shared.inFlight_taken flying)
  · intro other different
    simp [queue, different]
  · exact fun _ _ _ inside => List.mem_append_left _ inside

theorem Inv.failAll (marked : connection.close = .marked) (is : connection.queue = queue) :
    Inv messages (connection.failAll queue) := by
  induction queue generalizing connection with
  | nil =>
    have shared := inv.shared
    refine ⟨{ shared with
      order := ?_
      closed := ?_
      drained := fun _ => rfl }, ?_⟩
    · have order := shared.order
      rwa [is] at order
    · have closed := shared.closed
      rw [marked] at closed
      exact ⟨nofun, fun isOpen => nomatch closed.mpr isOpen⟩
    · intro other
      exact (inv.send other).keep (by simp [is, Connection.failAll]) .rfl (fun _ => id)
        (fun _ => id) (fun _ => id)
  | cons index rest induction => exact induction (inv.fail is marked) marked rfl

theorem Inv.markClosed :
    Inv messages { connection with closed := true, close := .marked } where
  shared := { inv.shared with
    closed := ⟨nofun, nofun⟩
    drained := nofun }
  send other := (inv.send other).keep .rfl .rfl (fun _ => id) (fun _ => id) (fun _ => id)

end

theorem Inv.wake [DecidableEq Waker] (inv : Inv messages connection)
    (woken : connection.wake position = some next) : Inv messages next := by
  have shared := inv.shared
  rw [Connection.wake] at woken
  split at woken <;> cases woken
  rename_i index waker found
  have old := inv.send index
  have kept : ∀ {other : Nat} {waker' : Waker}, (other, waker') ≠ (index, waker) →
      (other, waker') ∈ connection.wakes →
      (other, waker') ∈ connection.wakes.eraseIdx position := by
    intro other waker' different inside
    rcases List.mem_iff_getElem?.mp inside with ⟨place, there⟩
    refine List.mem_eraseIdx_iff_getElem?.mpr ⟨place, ?_, there⟩
    rintro rfl
    cases found.symm.trans there
    exact different rfl
  refine inv.change rfl { shared with queued := shared.started rfl } { old with waits := ?_ }
    (fun _ _ => .rfl) (fun _ _ => .rfl) (fun _ => id) (fun _ _ => id) ?_
  · intro waker' waiting unwoken alive
    simp only [Bool.or_eq_false_iff, decide_eq_false_iff_not] at unwoken
    refine (old.waits waker' waiting unwoken.1 alive).imp_right (kept ?_)
    rintro ⟨⟩
    exact unwoken.2 waiting
  · intro other waker' different
    exact kept fun same => different (congrArg Prod.fst same)

/-! ## Runs -/

theorem Inv.step [DecidableEq Waker] (inv : Inv messages connection)
    (stepped : connection.step move = some next) : Inv messages next := by
  cases move with simp only [Connection.step] at stepped
  | poll index waker =>
    split at stepped
    · cases stepped
    · rename_i may
      simp only [Bool.or_eq_true, not_or, Bool.not_eq_true] at may
      cases stepped
      exact inv.poll may.1 waker
  | enqueue index =>
    rcases of_guard stepped with ⟨polling, rfl⟩
    exact inv.enqueue polling
  | drop index =>
    split at stepped
    · cases stepped
    · rename_i may
      simp only [Bool.or_eq_true, not_or, Bool.not_eq_true] at may
      cases stepped
      exact inv.drop may.2
  | requestClose =>
    cases stepped
    exact ⟨{ inv.shared with }, fun other =>
      (inv.send other).keep .rfl .rfl (fun _ => id) (fun _ => id) (fun _ => id)⟩
  | writeable =>
    split at stepped <;> cases stepped
    rename_i idle
    exact inv.writeable idle
  | lwsWrite ok =>
    split at stepped <;> cases stepped
    rename_i writing
    exact inv.lwsWrite writing ok
  | record =>
    split at stepped <;> cases stepped
    rename_i writing
    exact inv.record writing
  | markClosed =>
    split at stepped
    · cases stepped
    all_goals
      cases stepped
      exact inv.markClosed
  | drain =>
    split at stepped
    · rename_i marked
      cases stepped
      exact inv.failAll marked rfl
    all_goals cases stepped
  | wake position => exact inv.wake stepped

theorem Inv.initial [DecidableEq Waker] : Inv messages (sendMachine Waker messages).initial where
  shared := by
    constructor <;> simp [sendMachine, newSend, Connection.taken, Connection.unwritten]
  send index := by
    constructor <;> simp [sendMachine, newSend]

/-- Every send is written once or not at all, and its future knows which. -/
structure Delivered (messages : Nat → Message Byte) (connection : Connection Byte Waker) :
    Prop where
  /-- A queued send is handed to `lws_write()` at most once, in the order of the queue. -/
  once : (connection.written.map Written.index).Sublist connection.queued ∧
    connection.queued.Nodup
  own : ∀ written ∈ connection.written, written.message = messages written.index
  withdrawn : ∀ index, (connection.sends index).withdrawn →
    index ∉ connection.written.map Written.index
  /-- After the close, what is neither dropped nor in flight has been completed once. -/
  completed : connection.close = .drained → ∀ index ∈ connection.queued,
    (connection.sends index).dropped = false → connection.inFlight ≠ some index →
    (connection.sends index).node.complete ∧ (connection.sends index).completions = 1
  completions : ∀ index, (connection.sends index).completions ≤ 1
  /-- Success is recorded after the write only. -/
  success : ∀ index, (connection.sends index).node.complete →
    (connection.sends index).node.error = none →
    ∃ written ∈ connection.written, written.index = index ∧ written.ok
  /-- A future resolves successfully only if its own frame was written. -/
  ready : ∀ index, (connection.sends index).result = some .ready →
    ∃ written ∈ connection.written, written.index = index ∧
      written.message = messages index ∧ written.ok
  /-- The node of a dropped future is not used. -/
  misused : connection.misused = false
  /-- A pending send that was not woken is in the queue of an open connection or is being
  written. -/
  waits : connection.wakes = [] → connection.close ≠ .marked → ∀ index waker,
    (connection.sends index).waiting = some waker → (connection.sends index).woken = false →
    (connection.sends index).dropped = false →
    (index ∈ connection.queue ∧ connection.closed = false) ∨ connection.inFlight = some index

theorem Inv.delivered (inv : Inv messages connection) : Delivered messages connection where
  once := by
    refine ⟨?_, inv.shared.nodup⟩
    exact ((List.sublist_append_left _ _).trans (List.sublist_append_left _ _)).trans
      inv.shared.order
  own := inv.shared.written
  withdrawn index is inside :=
    ((inv.send index).withdrawn is).2 (List.mem_append_left _ inside)
  completed drained index queued alive grounded := by
    have send := inv.send index
    have complete : (connection.sends index).node.complete := by
      rcases send.settled ((inv.shared.queued index).mp queued) alive with inside | flying | done
      · rw [inv.shared.drained drained] at inside
        cases inside
      · exact absurd flying grounded
      · exact done
    exact ⟨complete, by rw [send.completions, complete]; rfl⟩
  completions index := by
    rw [(inv.send index).completions]
    exact Bool.toNat_le _
  success index := (inv.send index).written
  ready index is := by
    have send := inv.send index
    rcases send.success is with ⟨complete, error⟩
    rcases send.written complete error with ⟨written, member, rfl, ok⟩
    exact ⟨written, member, rfl, inv.shared.written written member, ok⟩
  misused := inv.shared.misused
  waits quiet settled index waker waiting unwoken alive := by
    have send := inv.send index
    rcases send.waits waker waiting unwoken alive with ⟨incomplete, -⟩ | inside
    · have started : (connection.sends index).started := by
        by_contra fresh
        cases waiting.symm.trans (send.unstarted (eq_false_of_ne_true fresh)).2.1
      rcases send.settled started alive with inside | flying | complete
      · refine .inl ⟨inside, inv.shared.closed.mp ?_⟩
        cases close : connection.close with
        | idle => rfl
        | marked => exact absurd close settled
        | drained =>
          rw [inv.shared.drained close] at inside
          cases inside
      · exact .inr flying
      · cases incomplete.symm.trans complete
    · rw [quiet] at inside
      cases inside

theorem sends_delivered [DecidableEq Waker]
    (reached : (sendMachine Waker messages).Reaches anyMove connection) :
    Delivered messages connection := by
  have inv : Inv messages connection := by
    refine reached.invariant _ ?_ .initial
    exact fun connection move next inv _ stepped => inv.step stepped
  exact inv.delivered

/-- Of three sends the first is dropped while it is written, the second succeeds, and the third
is failed by the close. -/
theorem sends_delivered_closed :
    ∃ connection : Connection Nat Nat,
      (sendMachine Nat fun index => { data := [index], isText := true }).Reaches anyMove
        connection ∧
      connection.written.map (fun written => (written.index, written.message.data)) =
        [(0, [0]), (1, [1])] ∧
      (connection.sends 1).result = some .ready ∧
      (connection.sends 2).result = some (.error .enotconn) ∧
      Delivered (fun index => { data := [index], isText := true }) connection := by
  refine exists_of_exec
    [.poll 0 5, .enqueue 0, .poll 1 6, .enqueue 1, .poll 2 7, .enqueue 2, .writeable, .drop 0,
      .lwsWrite true, .record, .writeable, .lwsWrite true, .record, .wake 0, .markClosed,
      .drain, .wake 0, .poll 1 6, .poll 2 7]
    (by decide +kernel) fun reached => ⟨?_, ?_, ?_, sends_delivered reached⟩
  all_goals decide +kernel

end CoroRuntime.WebSocket
