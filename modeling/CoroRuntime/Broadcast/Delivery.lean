import CoroRuntime.Broadcast.Accounting

/-! # What a receiver gets

A receiver reads the log of the sends from where it was created on. Where the ring has
overwritten values that it had not read, one `Lagged` stands for all of them.
-/

namespace CoroRuntime.Broadcast

open Foundation
open Function (update update_idem update_self update_of_ne)

def Report.covered {Value : Type} (report : Report Value) : Nat :=
  match report.answer with
  | .value _ => 1
  | .lagged skipped => skipped
  | .closed => 0
  | .nothing => 0

/-- The reports of a receiver that has gone over the log from `start` to a cursor, with a
ring of `capacity` slots. -/
inductive Delivered {Value : Type} (capacity : Nat) (log : List Value) (start : Nat) :
    List (Report Value) → Nat → Prop
  | created : Delivered capacity log start [] start
  | value {reports : List (Report Value)} {cursor sent senders : Nat} (value : Value)
      (earlier : Delivered capacity log start reports cursor)
      (retained : sent ≤ cursor + capacity) (unread : cursor < sent)
      (next : log[cursor]? = some value) :
      Delivered capacity log start (reports ++ [⟨.value value, sent, senders⟩]) (cursor + 1)
  /-- All that is not in the ring any more is skipped, and no more. -/
  | lagged {reports : List (Report Value)} {cursor sent senders : Nat} (skipped : Nat)
      (earlier : Delivered capacity log start reports cursor)
      (missing : 0 < skipped) (exact : cursor + skipped + capacity = sent) :
      Delivered capacity log start (reports ++ [⟨.lagged skipped, sent, senders⟩])
        (cursor + skipped)
  | closed {reports : List (Report Value)} {cursor : Nat}
      (earlier : Delivered capacity log start reports cursor) :
      Delivered capacity log start (reports ++ [⟨.closed, cursor, 0⟩]) cursor
  | nothing {reports : List (Report Value)} {cursor senders : Nat}
      (earlier : Delivered capacity log start reports cursor) (senders_pos : 0 < senders) :
      Delivered capacity log start (reports ++ [⟨.nothing, cursor, senders⟩]) cursor

namespace Delivered

variable {Value : Type} {capacity : Nat} {log : List Value} {start cursor : Nat}
  {reports : List (Report Value)}

theorem covered (delivered : Delivered capacity log start reports cursor) :
    cursor = start + (reports.map Report.covered).sum := by
  induction delivered with
  | created => rfl
  | value _ _ _ _ _ induction | lagged _ _ _ _ induction =>
    simp only [List.map_append, List.sum_append, List.map_singleton, List.sum_singleton,
      Report.covered]
    omega
  | closed _ induction | nothing _ _ induction => simpa [Report.covered] using induction

theorem append (delivered : Delivered capacity log start reports cursor) (more : List Value) :
    Delivered capacity (log ++ more) start reports cursor := by
  induction delivered with
  | created => exact .created
  | value value _ retained unread next induction =>
    have bound := (List.getElem?_eq_some_iff.mp next).1
    exact .value value induction retained unread ((List.getElem?_append_left bound).trans next)
  | lagged skipped _ missing exact induction => exact .lagged skipped induction missing exact
  | closed _ induction => exact .closed induction
  | nothing _ senders induction => exact .nothing induction senders

end Delivered

variable {capacity : Nat} [NeZero capacity] {Receiver Future Value : Type}
  {state next : BroadcastState capacity Receiver Future Value}

/-! ## The reports -/

theorem Delivered.answered (accounted : Accounted state)
    (found : state.receiver receiver = some content)
    (delivered : Delivered capacity state.log content.start content.reports content.cursor)
    (answered : Answered state content.cursor answer cursor) :
    Delivered capacity state.log content.start
      (content.reports ++ [⟨answer, state.nextSeq, state.senderCount⟩]) cursor := by
  have oldest := state.oldestSeq_eq
  have behind := accounted.cursors receiver content found
  cases answered with
  | value value retains sent =>
    have above := retains.1
    exact .value value delivered (by omega) retains.2 sent
  | lagged evicted =>
    have exact : content.cursor + (state.oldestSeq - content.cursor) = state.oldestSeq := by
      omega
    have lagged : Delivered capacity state.log content.start
        (content.reports ++ [⟨.lagged (state.oldestSeq - content.cursor), state.nextSeq,
          state.senderCount⟩]) (content.cursor + (state.oldestSeq - content.cursor)) :=
      .lagged _ delivered (by omega) (by omega)
    rwa [exact] at lagged
  | closed current senders =>
    have all : state.nextSeq = content.cursor := le_antisymm current behind
    rw [all, senders]
    exact .closed delivered
  | nothing current senders =>
    have all : state.nextSeq = content.cursor := le_antisymm current behind
    rw [all]
    exact .nothing delivered (Nat.pos_of_ne_zero senders)

omit [NeZero capacity] in
theorem Answered.forward (answered : Answered state cursor answer later) : cursor ≤ later := by
  cases answered with
  | value => exact Nat.le_succ cursor
  | lagged evicted => exact Nat.le_of_lt evicted
  | closed => exact le_refl _
  | nothing => exact le_refl _

omit [NeZero capacity] in
theorem Progress.forward (progress : Progress state content later) :
    content.cursor ≤ later.cursor := by
  cases progress with
  | kept => exact le_refl _
  | answered _ _ _ answered => exact answered.forward
  | retired => exact le_refl _

/-- Every receiver, also one that has left, was given its part of the log. -/
def Reported (state : BroadcastState capacity Receiver Future Value) : Prop :=
  ∀ receiver content, state.receiver receiver = some content →
    Delivered capacity state.log content.start content.reports content.cursor

omit [NeZero capacity] in
theorem Change.log_append [DecidableEq Receiver] (change : Change state next) :
    ∃ more, next.log = state.log ++ more := by
  cases change with
  | kept _ log | added _ _ _ log | progressed _ _ _ _ _ _ log =>
    exact ⟨[], by rw [log, List.append_nil]⟩
  | sent value _ log => exact ⟨[value], log⟩

theorem Reported.step [DecidableEq Receiver] (reported : Reported state)
    (accounted : Accounted state) (change : Change state next) : Reported next := by
  intro receiver later found
  rcases change.log_append with ⟨more, log⟩
  rw [log]
  rcases change.origin found with ⟨content, present, progress⟩ | fresh
  · have delivered := reported receiver content present
    cases progress with
    | kept | retired => exact delivered.append more
    | answered answer cursor _ answered =>
      exact (delivered.answered accounted present answered).append more
  · subst fresh
    exact .created

/-! ## The waiting futures -/

/-- The futures in `receiver_waiters`, and those that may be waiting outside it. -/
structure Waiting (state : BroadcastState capacity Receiver Future Value) : Prop where
  nodup : state.receiverWaiters.Nodup
  nodupSenders : state.senderWaiters.Nodup
  linked : ∀ future ∈ state.receiverWaiters, ∃ content receiver reader,
    state.future future = some content ∧ content.subject = .recv receiver ∧
    content.waker ∧ state.receiver receiver = some reader ∧ state.nextSeq ≤ reader.cursor
  senders : state.receiverWaiters ≠ [] → 0 < state.senderCount
  pending : ∀ future content receiver, state.future future = some content →
    content.subject = .recv receiver → content.status = .pending false →
    future ∈ state.receiverWaiters ∨ 0 < content.inFlight
  /-- The nodes of the two lists are of different types. -/
  active : ∀ future ∈ state.senderWaiters, ∃ content,
    state.future future = some content ∧ content.subject = .receiversActive

namespace Waiting

omit [NeZero capacity]

variable (waiting : Waiting state)

include waiting

theorem not_linked (known : state.future future = some content)
    (subject : content.subject = .receiversActive) : future ∉ state.receiverWaiters := by
  intro member
  rcases waiting.linked future member with ⟨_, _, _, known', subject', _⟩
  rw [known] at known'
  cases known'
  rw [subject] at subject'
  cases subject'

theorem not_active (known : state.future future = some content)
    (subject : content.subject = .recv receiver) : future ∉ state.senderWaiters := by
  intro member
  rcases waiting.active future member with ⟨_, known', subject'⟩
  rw [known] at known'
  cases known'
  rw [subject] at subject'
  cases subject'

theorem absent (free : state.future future = none) :
    future ∉ state.receiverWaiters ∧ future ∉ state.senderWaiters := by
  constructor
  · intro member
    rcases waiting.linked future member with ⟨_, _, _, known, _⟩
    rw [free] at known
    cases known
  · intro member
    rcases waiting.active future member with ⟨_, known, _⟩
    rw [free] at known
    cases known

theorem of_receivers (waiters : next.receiverWaiters = state.receiverWaiters)
    (senderWaiters : next.senderWaiters = state.senderWaiters)
    (futures : next.future = state.future) (nextSeq : next.nextSeq = state.nextSeq)
    (senders : 0 < state.senderCount → 0 < next.senderCount)
    (receivers : ∀ receiver content, state.receiver receiver = some content →
      ∃ later, next.receiver receiver = some later ∧ content.cursor ≤ later.cursor) :
    Waiting next := by
  constructor
  · rw [waiters]
    exact waiting.nodup
  · rw [senderWaiters]
    exact waiting.nodupSenders
  · intro future member
    rw [waiters] at member
    rcases waiting.linked future member with
      ⟨content, receiver, reader, known, subject, waker, found, current⟩
    rcases receivers receiver reader found with ⟨later, found', forward⟩
    rw [futures, nextSeq]
    exact ⟨content, receiver, later, known, subject, waker, found', current.trans forward⟩
  · intro nonempty
    rw [waiters] at nonempty
    exact senders (waiting.senders nonempty)
  · rw [futures, waiters]
    exact waiting.pending
  · rw [futures, senderWaiters]
    exact waiting.active

variable [DecidableEq Future]

/-- `receiver_waiters` is drained, whatever else happens to receivers and senders. -/
theorem drained (waiters : next.receiverWaiters = [])
    (senderWaiters : next.senderWaiters = state.senderWaiters)
    (futures : next.future = (state.takeWakers state.receiverWaiters).future) :
    Waiting next := by
  have drained : ∀ future, next.future future = if future ∈ state.receiverWaiters then
      (state.future future).map FutureState.takeWaker else state.future future := by
    intro future
    rw [futures]
    rfl
  constructor
  · rw [waiters]
    exact List.nodup_nil
  · rw [senderWaiters]
    exact waiting.nodupSenders
  · intro future member
    rw [waiters] at member
    cases member
  · exact fun nonempty => absurd waiters nonempty
  · intro future content receiver known subject status
    right
    rw [drained] at known
    split at known
    · rename_i member
      rcases waiting.linked future member with ⟨content', _, _, known', _, waker, _⟩
      rw [known', Option.map_some] at known
      cases known
      simp only [FutureState.takeWaker, waker, if_true]
      exact Nat.succ_pos _
    · rename_i absent
      exact (waiting.pending future content receiver known subject status).resolve_left absent
  · intro future member
    rw [senderWaiters] at member
    rcases waiting.active future member with ⟨content, known, subject⟩
    rw [drained, if_neg (waiting.not_linked known subject)]
    exact ⟨content, known, subject⟩

theorem drainSenders : Waiting state.drainSenders := by
  have kept : ∀ future content receiver, state.drainSenders.future future = some content →
      content.subject = .recv receiver → state.future future = some content := by
    intro future content receiver known subject
    simp only [BroadcastState.drainSenders, BroadcastState.takeWakers] at known
    split at known
    · rename_i member
      rcases waiting.active future member with ⟨content', known', subject'⟩
      rw [known', Option.map_some] at known
      cases known
      unfold FutureState.takeWaker at subject
      split at subject <;> rw [subject'] at subject <;> cases subject
    · exact known
  constructor
  · exact waiting.nodup
  · exact List.nodup_nil
  · intro future member
    rcases waiting.linked future member with
      ⟨content, receiver, reader, known, subject, waker, found, current⟩
    refine ⟨content, receiver, reader, ?_, subject, waker, found, current⟩
    exact (if_neg (waiting.not_active known subject)).trans known
  · exact waiting.senders
  · intro future content receiver known subject status
    exact waiting.pending future content receiver (kept future content receiver known subject)
      subject status
  · intro future member
    cases member

theorem unlinked (future : Future)
    (value : Option (FutureState Receiver))
    (harmless : ∀ content, value = some content → content.status ≠ .pending false)
    (waiters : next.receiverWaiters = state.receiverWaiters.erase future)
    (senderWaiters : next.senderWaiters = state.senderWaiters.erase future)
    (futures : next.future = update state.future future value)
    (nextSeq : next.nextSeq = state.nextSeq) (senders : next.senderCount = state.senderCount)
    (receivers : ∀ receiver content, state.receiver receiver = some content →
      ∃ later, next.receiver receiver = some later ∧ content.cursor ≤ later.cursor) :
    Waiting next := by
  constructor
  · rw [waiters]
    exact waiting.nodup.erase future
  · rw [senderWaiters]
    exact waiting.nodupSenders.erase future
  · intro other member
    rw [waiters, waiting.nodup.mem_erase_iff] at member
    rcases waiting.linked other member.2 with
      ⟨content, receiver, reader, known, subject, waker, found, current⟩
    rcases receivers receiver reader found with ⟨later, found', forward⟩
    rw [futures, update_of_ne member.1, nextSeq]
    exact ⟨content, receiver, later, known, subject, waker, found', current.trans forward⟩
  · intro nonempty
    rw [waiters] at nonempty
    rw [senders]
    apply waiting.senders
    intro empty
    exact nonempty (by rw [empty, List.erase_nil])
  · intro other content receiver known subject status
    rw [futures] at known
    by_cases same : other = future
    · subst same
      rw [update_self] at known
      exact absurd status (harmless content known)
    · rw [update_of_ne same] at known
      rw [waiters, waiting.nodup.mem_erase_iff]
      rcases waiting.pending other content receiver known subject status with member | flying
      · exact .inl ⟨same, member⟩
      · exact .inr flying
  · intro other member
    rw [senderWaiters, waiting.nodupSenders.mem_erase_iff] at member
    rw [futures, update_of_ne member.1]
    exact waiting.active other member.2

theorem link (free : state.future future = none) (content : FutureState Receiver)
    (subject : content.subject = .recv receiver) (waker : content.waker)
    (found : state.receiver receiver = some reader) (current : state.nextSeq ≤ reader.cursor)
    (senders : 0 < state.senderCount) :
    Waiting { state with
      future := update state.future future (some content)
      receiverWaiters := state.receiverWaiters ++ [future] } := by
  have absent := (waiting.absent free).1
  have others : ∀ {other}, state.future other ≠ none →
      update state.future future (some content) other = state.future other := by
    intro other known
    apply update_of_ne
    rintro rfl
    exact known free
  constructor
  · exact List.nodup_append'.mpr ⟨waiting.nodup, List.nodup_singleton future, by simpa using absent⟩
  · exact waiting.nodupSenders
  · intro other member
    rcases List.mem_append.mp member with member | member
    · rcases waiting.linked other member with
        ⟨content', receiver', reader', known, linked⟩
      exact ⟨content', receiver', reader', (others (by simp [known])).trans known, linked⟩
    · cases List.mem_singleton.mp member
      exact ⟨content, receiver, reader, update_self .., subject, waker, found, current⟩
  · exact fun _ => senders
  · intro other content' receiver' known subject' status
    by_cases same : other = future
    · exact .inl (List.mem_append_right _ (List.mem_singleton.mpr same))
    · dsimp only at known
      rw [update_of_ne same] at known
      rcases waiting.pending other content' receiver' known subject' status with member | flying
      · exact .inl (List.mem_append_left _ member)
      · exact .inr flying
  · intro other member
    rcases waiting.active other member with ⟨content', known, active⟩
    exact ⟨content', (others (by simp [known])).trans known, active⟩

theorem watch (free : state.future future = none) (content : FutureState Receiver)
    (subject : content.subject = .receiversActive) :
    Waiting { state with
      future := update state.future future (some content)
      senderWaiters := state.senderWaiters ++ [future] } := by
  have absent := (waiting.absent free).2
  have others : ∀ {other}, state.future other ≠ none →
      update state.future future (some content) other = state.future other := by
    intro other known
    apply update_of_ne
    rintro rfl
    exact known free
  constructor
  · exact waiting.nodup
  · exact List.nodup_append'.mpr
      ⟨waiting.nodupSenders, List.nodup_singleton future, by simpa using absent⟩
  · intro other member
    rcases waiting.linked other member with ⟨content', receiver, reader, known, linked⟩
    exact ⟨content', receiver, reader, (others (by simp [known])).trans known, linked⟩
  · exact waiting.senders
  · intro other content' receiver known subject' status
    by_cases same : other = future
    · subst same
      dsimp only at known
      rw [update_self] at known
      cases known
      rw [subject] at subject'
      cases subject'
    · dsimp only at known
      rw [update_of_ne same] at known
      exact waiting.pending other content' receiver known subject' status
  · intro other member
    rcases List.mem_append.mp member with member | member
    · rcases waiting.active other member with ⟨content', known, active⟩
      exact ⟨content', (others (by simp [known])).trans known, active⟩
    · cases List.mem_singleton.mp member
      exact ⟨content, update_self .., subject⟩

theorem awaken (known : state.future future = some content) :
    Waiting (state.setFuture future (some content.awaken)) := by
  have unchanged : ∀ {other content'}, state.future other = some content' →
      ∃ later, (state.setFuture future (some content.awaken)).future other = some later ∧
        later.subject = content'.subject ∧ later.waker = content'.waker := by
    intro other content' known'
    by_cases same : other = future
    · subst same
      rw [known] at known'
      cases known'
      exact ⟨content.awaken, update_self .., rfl, rfl⟩
    · exact ⟨content', (update_of_ne same ..).trans known', rfl, rfl⟩
  constructor
  · exact waiting.nodup
  · exact waiting.nodupSenders
  · intro other member
    rcases waiting.linked other member with
      ⟨content', receiver, reader, known', subject, waker, found, current⟩
    rcases unchanged known' with ⟨later, known'', sameSubject, sameWaker⟩
    exact ⟨later, receiver, reader, known'', sameSubject.trans subject, sameWaker.trans waker,
      found, current⟩
  · exact waiting.senders
  · intro other content' receiver known' subject status
    simp only [BroadcastState.setFuture] at known'
    by_cases same : other = future
    · subst same
      rw [update_self] at known'
      cases known'
      simp only [FutureState.awaken] at status
      split at status
      · cases status
      · rename_i notPending
        exact absurd status (notPending false)
    · rw [update_of_ne same] at known'
      exact waiting.pending other content' receiver known' subject status
  · intro other member
    rcases waiting.active other member with ⟨content', known', subject⟩
    rcases unchanged known' with ⟨later, known'', sameSubject, _⟩
    exact ⟨later, known'', sameSubject.trans subject⟩

theorem pollActive (known : state.future future = some content)
    (subject : content.subject = .receiversActive) : Waiting (state.pollActive future content) := by
  have unlinked : state.receiverWaiters = state.receiverWaiters.erase future :=
    (List.erase_of_not_mem (waiting.not_linked known subject)).symm
  have receivers : ∀ receiver reader, state.receiver receiver = some reader →
      ∃ later, state.receiver receiver = some later ∧ reader.cursor ≤ later.cursor :=
    fun _ reader found => ⟨reader, found, le_refl _⟩
  unfold BroadcastState.pollActive
  dsimp only
  split
  · exact waiting.unlinked future _ (by simp) unlinked rfl rfl rfl rfl receivers
  · have left : Waiting { state with
        future := update state.future future none
        senderWaiters := state.senderWaiters.erase future } :=
      waiting.unlinked future none (by simp) unlinked rfl rfl rfl rfl receivers
    have watching := left.watch (update_self ..)
      { content with waker := true, status := .pending false } subject
    rwa [update_idem] at watching

theorem dropFuture (known : state.future future = some content) :
    Waiting (state.dropFuture future content) := by
  have receivers : ∀ receiver reader, state.receiver receiver = some reader →
      ∃ later, state.receiver receiver = some later ∧ reader.cursor ≤ later.cursor :=
    fun _ reader found => ⟨reader, found, le_refl _⟩
  unfold BroadcastState.dropFuture
  split
  · rename_i receiver subject
    exact waiting.unlinked future none (by simp) rfl
      (List.erase_of_not_mem (waiting.not_active known subject)).symm rfl rfl rfl receivers
  · rename_i subject
    exact waiting.unlinked future none (by simp)
      (List.erase_of_not_mem (waiting.not_linked known subject)).symm rfl rfl rfl rfl receivers

variable [DecidableEq Receiver]

theorem addReceiver (fresh : state.receiver receiver = none) :
    Waiting (state.addReceiver receiver) := by
  have receivers : ∀ other reader, state.receiver other = some reader →
      ∃ later, update state.receiver receiver
        (some ⟨true, state.nextSeq, state.nextSeq, []⟩) other = some later ∧
        reader.cursor ≤ later.cursor := by
    intro other reader found
    have different : other ≠ receiver := by
      rintro rfl
      rw [fresh] at found
      cases found
    exact ⟨reader, (update_of_ne different ..).trans found, le_refl _⟩
  unfold BroadcastState.addReceiver
  split
  · exact waiting.drainSenders.of_receivers rfl rfl rfl rfl id receivers
  · exact waiting.of_receivers rfl rfl rfl rfl id receivers

variable [NeZero capacity]

theorem pollRecv (accounted : Accounted state) (known : state.future future = some content)
    (subject : content.subject = .recv receiver) (found : state.receiver receiver = some reader)
    (active : reader.active) : Waiting (state.pollRecv future content receiver reader) := by
  rcases accounted.receive_eq found active with ⟨answer, cursor, ring, failed, answered, equal⟩
  have forward : ∀ other before, state.receiver other = some before →
      ∃ later, update state.receiver receiver (some { reader with
        cursor := cursor
        reports := reader.reports ++ [⟨answer, state.nextSeq, state.senderCount⟩] }) other =
          some later ∧ before.cursor ≤ later.cursor := by
    intro other before present
    by_cases same : other = receiver
    · subst same
      rw [found] at present
      cases present
      exact ⟨_, update_self .., answered.forward⟩
    · exact ⟨before, (update_of_ne same ..).trans present, le_refl _⟩
  have enlisted : state.senderWaiters = state.senderWaiters.erase future :=
    (List.erase_of_not_mem (waiting.not_active known subject)).symm
  unfold BroadcastState.pollRecv
  rw [equal]
  split
  · rename_i same
    cases same
    cases answered with
    | nothing current senders =>
      have left : Waiting { state with
          ring := ring
          failed := failed
          future := update state.future future none
          receiverWaiters := state.receiverWaiters.erase future
          receiver := update state.receiver receiver (some { reader with
            reports := reader.reports ++ [⟨.nothing, state.nextSeq, state.senderCount⟩] }) } :=
        waiting.unlinked future none (by simp) rfl enlisted rfl rfl rfl forward
      have linked := left.link (update_self ..)
        { content with waker := true, status := .pending false } subject rfl
        (update_self ..) current (Nat.pos_of_ne_zero senders)
      rwa [update_idem] at linked
  · rename_i same
    cases same
    exact waiting.unlinked future _ (by simp) rfl enlisted rfl rfl rfl forward

theorem step (accounted : Accounted state) (effect : Effect state move next) : Waiting next := by
  have same : ∀ receiver reader, state.receiver receiver = some reader →
      ∃ later, state.receiver receiver = some later ∧ reader.cursor ≤ later.cursor :=
    fun _ reader found => ⟨reader, found, le_refl _⟩
  have forward : ∀ receiver reader, state.receiver receiver = some reader →
      ∃ later, next.receiver receiver = some later ∧ reader.cursor ≤ later.cursor := by
    intro receiver reader found
    rcases (accounted.change effect).progress found with ⟨later, found', progress⟩
    exact ⟨later, found', progress.forward⟩
  cases effect with
  | refused => exact waiting
  | sent value => exact waiting.drained rfl rfl rfl
  | cloned => exact waiting.of_receivers rfl rfl rfl rfl (fun _ => Nat.succ_pos _) same
  | senderClosed =>
    unfold BroadcastState.closeSender
    dsimp only
    split
    · exact waiting.drained rfl rfl rfl
    · exact waiting.of_receivers rfl rfl rfl rfl (fun _ => Nat.pos_of_ne_zero ‹_›) same
  | added receiver fresh =>
    apply waiting.addReceiver
    by_contra present
    exact fresh (accounted.registered receiver (Option.isSome_iff_ne_none.mpr present))
  | handles => exact waiting.of_receivers rfl rfl rfl rfl id same
  | retired receiver content _ found =>
    rcases BroadcastState.releases_eq (List.range' (max content.cursor state.oldestSeq)
      (state.nextSeq - max content.cursor state.oldestSeq)) state with ⟨ring, failed, equal⟩
    simp only [BroadcastState.retire, BroadcastState.removeReceiver, BroadcastState.setReceiver,
      equal] at forward ⊢
    exact waiting.of_receivers rfl rfl rfl rfl id forward
  | received receiver content found active =>
    rcases accounted.receive_eq found active with ⟨answer, cursor, ring, failed, _, equal⟩
    rw [equal] at forward ⊢
    exact waiting.of_receivers rfl rfl rfl rfl id forward
  | requested future subject fresh =>
    have absent := waiting.absent fresh
    exact waiting.unlinked future _ (by simp) (List.erase_of_not_mem absent.1).symm
      (List.erase_of_not_mem absent.2).symm rfl rfl rfl same
  | polledRecv _ _ _ _ known subject found active =>
    exact waiting.pollRecv accounted known subject found active
  | polledActive _ _ known subject => exact waiting.pollActive known subject
  | dropped _ _ known => exact waiting.dropFuture known
  | woken _ _ known => exact waiting.awaken known

end Waiting

/-! ## The delivery -/

structure BroadcastDelivery [DecidableEq Receiver] [DecidableEq Future]
    (state : BroadcastState capacity Receiver Future Value) : Prop where
  /-- A receiver starts after the sends that were made before it was created. -/
  starts : ∀ move next, state.step move = some next → ∀ receiver content,
    state.receiver receiver = none → next.receiver receiver = some content →
    content.start = state.log.length ∧ content.cursor = state.log.length ∧ content.reports = []
  delivered : ∀ receiver content, state.receiver receiver = some content →
    Delivered capacity state.log content.start content.reports content.cursor
  balance : ∀ receiver content, state.receiver receiver = some content →
    content.cursor - content.start = (content.reports.map Report.covered).sum
  /-- With no waker about to be called, a future that waits is not left behind. -/
  waiting : (∀ future content, state.future future = some content → content.inFlight = 0) →
    ∀ future content receiver, state.future future = some content →
      content.subject = .recv receiver → content.status = .pending false →
      future ∈ state.receiverWaiters ∧ 0 < state.senderCount ∧
      ∃ reader, state.receiver receiver = some reader ∧ reader.cursor = state.log.length

section Runs

variable [DecidableEq Receiver] [DecidableEq Future] {first : Receiver}

theorem reported_of_reaches
    (reached : (broadcastMachine capacity Value first).Reaches anyMove state) :
    Reported state := by
  refine reached.invariant_given accounted_of_reaches Reported ?_ ?_
  · intro state move next accounted reported _ step
    exact reported.step accounted (accounted.change (effect step))
  · intro receiver content found
    by_cases same : receiver = first
    · subst same
      simp only [broadcastMachine, newChannel, update_self, Option.some.injEq] at found
      subst found
      exact .created
    · simp [broadcastMachine, newChannel, update_of_ne same] at found

theorem waiting_of_reaches
    (reached : (broadcastMachine capacity Value first).Reaches anyMove state) :
    Waiting state := by
  refine reached.invariant_given accounted_of_reaches Waiting ?_ ?_
  · intro state move next accounted waiting _ step
    exact waiting.step accounted (effect step)
  · constructor
    · exact List.nodup_nil
    · exact List.nodup_nil
    · exact fun _ member => nomatch member
    · exact fun nonempty => absurd rfl nonempty
    · exact fun _ _ _ known => nomatch known
    · exact fun _ member => nomatch member

theorem broadcast_delivery (capacity : Nat) [NeZero capacity] (first : Receiver)
    {state : BroadcastState capacity Receiver Future Value}
    (reached : (broadcastMachine capacity Value first).Reaches anyMove state) :
    BroadcastDelivery state := by
  have accounted := accounted_of_reaches reached
  have reported := reported_of_reaches reached
  have waiting := waiting_of_reaches reached
  constructor
  · intro move next step receiver content absent found
    rcases (accounted.change (effect step)).origin found with ⟨_, present, _⟩ | fresh
    · rw [absent] at present
      cases present
    · subst fresh
      exact ⟨accounted.logged.symm, accounted.logged.symm, rfl⟩
  · exact reported
  · intro receiver content found
    have covered := (reported receiver content found).covered
    omega
  · intro quiet future content receiver known subject status
    rcases waiting.pending future content receiver known subject status with member | flying
    · rcases waiting.linked future member with
        ⟨content', receiver', reader, known', subject', _, found, current⟩
      rw [known] at known'
      cases known'
      rw [subject] at subject'
      cases subject'
      have behind := accounted.cursors receiver reader found
      refine ⟨member, waiting.senders (List.ne_nil_of_mem member), reader, found, ?_⟩
      rw [accounted.logged]
      exact le_antisymm behind current
    · exact absurd (quiet future content known) (Nat.pos_iff_ne_zero.mp flying)

end Runs

/-- A receiver that has lost one of three values reads the rest and then waits. -/
theorem broadcast_delivery_lagged :
    ∃ (state : BroadcastState 2 Nat Nat Nat) (content : ReceiverState Nat),
      (broadcastMachine 2 Nat 0).Reaches anyMove state ∧
      state.receiver 0 = some content ∧
      content.reports.map Report.answer = [.lagged 1, .value 11, .value 12, .nothing] ∧
      state.future 5 = some ⟨.recv 0, true, 0, .pending false⟩ ∧ BroadcastDelivery state := by
  have reached := (broadcastMachine 2 Nat 0).reaches_exec anyMove
    [.send 10, .send 11, .send 12, .tryRecv 0, .tryRecv 0, .recv 0 5, .poll 5, .drop 5,
      .recv 0 5, .poll 5] (by decide +kernel)
  exact ⟨_, _, reached, rfl, rfl, rfl, broadcast_delivery 2 0 reached⟩

end CoroRuntime.Broadcast
