import CoroRuntime.WebSocket.Connecting
import Mathlib.Data.List.Nodup

/-! # Connect attempts end

A connect command is in the queue or in the batch that runs, or lws has the connection, or the
attempt is complete, unless the command was dropped. A command that waits in the queue has made
the pipe readable. A connection that is established has an owner or is told to close.
-/

namespace CoroRuntime.WebSocket

open Foundation

variable {Waker : Type u} {service next : Service Waker} {index : Nat}

def Turn.batch : Turn → List Command
  | .running commands | .connecting _ commands => commands
  | .idle | .reported | .destroying | .destroyed => []

def Turn.connects : Turn → Option Nat
  | .connecting index _ => some index
  | .running _ | .idle | .reported | .destroying | .destroyed => none

def Turn.live : Turn → Bool
  | .idle | .reported | .running _ | .connecting _ _ => true
  | .destroying | .destroyed => false

def Service.pending (service : Service Waker) : List Command :=
  service.turn.batch ++ service.commands

def Attempt.Kept (service : Service Waker) (index : Nat) (attempt : Attempt Waker) : Prop :=
  (attempt.owns ∧ attempt.streams = 0) ∨ (attempt.owns = false ∧ attempt.streams = 1) ∨
    attempt.leaving ∨ attempt.closing ∨ .close index ∈ service.pending

structure AttemptInv (service : Service Waker) (index : Nat) (attempt : Attempt Waker) :
    Prop where
  fresh : attempt.started = false ∨ attempt.posting → .connect index ∉ service.pending ∧
    service.turn.connects ≠ some index ∧ index ∉ service.held ∧ attempt.established = false ∧
    attempt.connect.complete = false
  posting : attempt.posting → attempt.started ∧ attempt.dropped = false
  once : service.pending.count (.connect index) ≤ 1
  pending : .connect index ∈ service.pending → service.turn.connects ≠ some index ∧
    index ∉ service.held ∧ attempt.established = false ∧ attempt.connect.complete = false
  progress : attempt.started → attempt.posting = false → attempt.dropped = false →
    attempt.unrun = false → attempt.connect.complete ∨ .connect index ∈ service.pending ∨
      index ∈ service.held
  cancelled : attempt.connect.cancelled → attempt.dropped
  dropped : attempt.dropped → attempt.connect.complete = false → attempt.connect.cancelled
  owns : attempt.owns → attempt.dropped = false ∧ attempt.streams = 0
  given : attempt.owns = false → attempt.dropped ∨ attempt.connect.complete
  streams : attempt.streams ≤ 1
  error : attempt.connect.complete = false → attempt.connect.error = none
  handshake : index ∈ service.held → attempt.established = false →
    attempt.connect.complete = false
  isOpen : index ∈ service.held → attempt.established → attempt.wsi ∧
    (attempt.connect.complete ∧ attempt.connect.error = none ∨ attempt.closing)
  kept : index ∈ service.held → attempt.established → service.destroying = false →
    attempt.Kept service index
  waits : ∀ waker, attempt.waiting = some waker → attempt.woken = false →
    attempt.dropped = false → attempt.connect.complete = false ∧
      attempt.connect.waker = some waker ∨ service.waking = some (index, waker)

structure ServiceInv (service : Service Waker) : Prop where
  piped : service.destroying = false → service.commands ≠ [] →
    service.pipe ∨ service.turn = .reported
  destroying : service.destroying = !service.turn.live
  ctx : service.ctx = false ↔ service.turn = .destroyed
  dropped : service.destroying → service.commands = []
  held : service.held.Nodup
  closed : service.turn = .destroyed → service.held = [] ∧ service.waking = none

structure AttemptsInv (service : Service Waker) : Prop where
  shared : ServiceInv service
  attempt : ∀ index, AttemptInv service index (service.attempts index)

/-! ## Attempts that are left alone -/

theorem Attempt.Kept.keep {attempt : Attempt Waker} (kept : attempt.Kept service index)
    (pending : attempt.closing = false → .close index ∈ service.pending →
      .close index ∈ next.pending) : attempt.Kept next index := by
  cases closing : attempt.closing with
  | true => exact .inr (.inr (.inr (.inl closing)))
  | false =>
    exact kept.imp_right fun given => given.imp_right fun left => left.imp_right fun told =>
      told.imp_right (pending closing)

theorem AttemptInv.keep {attempt : Attempt Waker} (inv : AttemptInv service index attempt)
    (count : next.pending.count (.connect index) = service.pending.count (.connect index))
    (close : next.destroying = false → index ∈ service.held → attempt.established →
      attempt.closing = false → .close index ∈ service.pending → .close index ∈ next.pending)
    (connects : next.turn.connects = some index → service.turn.connects = some index)
    (held : index ∈ next.held ↔ index ∈ service.held)
    (destroying : next.destroying = false → service.destroying = false)
    (waking : ∀ waker, service.waking = some (index, waker) → next.waking = some (index, waker)) :
    AttemptInv next index attempt := by
  have pending : .connect index ∈ next.pending ↔ .connect index ∈ service.pending := by
    rw [← List.count_pos_iff, count, List.count_pos_iff]
  exact { inv with
    fresh := fun is => by
      rw [pending, held]
      exact (inv.fresh is).imp_right fun rest => rest.imp_left fun apart => apart ∘ connects
    once := by rw [count]; exact inv.once
    pending := fun inside => by
      rw [held]
      exact (inv.pending (pending.mp inside)).imp_left fun apart => apart ∘ connects
    progress := by rw [pending, held]; exact inv.progress
    handshake := by rw [held]; exact inv.handshake
    isOpen := by rw [held]; exact inv.isOpen
    kept := fun member established alive => by
      have inside := held.mp member
      exact (inv.kept inside established (destroying alive)).keep
        (close alive inside established)
    waits := fun waker waiting unwoken alive =>
      (inv.waits waker waiting unwoken alive).imp_right (waking waker) }

theorem AttemptsInv.change {attempt : Attempt Waker}
    (attempts : next.attempts = Function.update service.attempts index attempt)
    (shared : ServiceInv next) (new : AttemptInv next index attempt)
    (others : ∀ other, other ≠ index → AttemptInv next other (service.attempts other)) :
    AttemptsInv next where
  shared := shared
  attempt other := by
    rw [attempts, Function.update_apply]
    split
    · rename_i same
      exact same ▸ new
    · rename_i different
      exact others other different

section

variable (inv : AttemptsInv service)

include inv

theorem AttemptsInv.setAttempt {attempt : Attempt Waker}
    (new : AttemptInv service index attempt) :
    AttemptsInv (service.setAttempt index attempt) := by
  refine .change rfl { inv.shared with } ?_ fun other _ => ?_
  · exact new.keep rfl (fun _ _ _ _ => id) id .rfl id fun _ => id
  · exact (inv.attempt other).keep rfl (fun _ _ _ _ => id) id .rfl id fun _ => id

/-! ## Polls and posts -/

theorem AttemptsInv.poll (owns : (service.attempts index).owns)
    (waker : Waker) :
    AttemptsInv (service.poll index waker) := by
  have old := inv.attempt index
  rcases old.owns owns with ⟨alive, empty⟩
  simp only [Service.poll, Bool.not_eq_true']
  split
  · rename_i unstarted
    have fresh := old.fresh (.inl unstarted)
    exact inv.setAttempt { old with
      fresh := fun _ => fresh
      posting := fun _ => ⟨rfl, alive⟩
      progress := nofun
      waits := fun _ is _ _ => .inl ⟨fresh.2.2.2.2, is⟩ }
  · rename_i started
    split
    · rename_i incomplete
      exact inv.setAttempt { old with waits := fun _ is _ _ => .inl ⟨incomplete, is⟩ }
    · rename_i complete
      have complete := eq_true_of_ne_false complete
      split
      · exact inv.setAttempt { old with waits := nofun }
      · exact inv.setAttempt { old with
          owns := nofun
          given := fun _ => .inr complete
          streams := by simp [empty]
          kept := fun _ _ _ => .inr (.inl ⟨rfl, by rw [empty]⟩)
          waits := nofun }

def Command.target : Command → Nat
  | .connect index | .close index | .write index => index

omit inv in
theorem ServiceInv.destroying_of_gone (shared : ServiceInv service)
    (refused : (!service.ctx || service.destroying) = true) : service.destroying := by
  rcases Bool.or_eq_true_iff.mp refused with gone | destroying
  · rw [shared.destroying, shared.ctx.mp (by simpa using gone)]
    rfl
  · exact destroying

theorem AttemptsInv.post {attempt : Attempt Waker} (targets : command.target = index)
    (refused : service.destroying → AttemptInv service index
      { attempt with unrun := attempt.unrun || command = .connect index })
    (accepted : service.destroying = false → ∀ next : Service Waker,
      next.pending = service.pending ++ [command] → next.turn = service.turn →
      next.held = service.held → next.destroying = false → next.waking = service.waking →
      AttemptInv next index attempt) :
    AttemptsInv ((service.setAttempt index attempt).post command) := by
  have shared := inv.shared
  rw [Service.post]
  split
  · rename_i gone
    have discarded := inv.setAttempt (refused (shared.destroying_of_gone gone))
    cases command with
    | connect _ =>
      cases targets
      simpa [Service.discard, Service.setAttempt, Command.target] using discarded
    | close _ | write _ => simpa [Service.discard] using discarded
  · rename_i may
    have alive : service.destroying = false := by
      have both := eq_false_of_ne_true may
      exact (Bool.or_eq_false_iff.mp both).2
    have pending : Service.pending { service.setAttempt index attempt with
        commands := service.commands ++ [command]
        pipe := service.pipe || service.commands.isEmpty } = service.pending ++ [command] := by
      simp [Service.pending, Service.setAttempt]
    refine .change rfl { shared with
      piped := fun _ _ => ?_
      dropped := fun is => Bool.noConfusion (alive.symm.trans is) } ?_ fun other different => ?_
    · cases empty : service.commands with
      | nil => exact .inl (by simp [Service.setAttempt, empty])
      | cons first rest =>
        refine (shared.piped alive (by simp [empty])).imp_left fun piped => ?_
        simp [Service.setAttempt, piped]
    · exact accepted alive _ pending rfl rfl alive rfl
    · refine (inv.attempt other).keep ?_ ?_ id .rfl id fun _ => id
      · have apart : (command == .connect other) = false := by
          rw [beq_eq_false_iff_ne]
          rintro rfl
          exact different targets
        simp only [Service.setAttempt] at pending ⊢
        rw [pending, List.count_append, List.count_singleton, apart]
        rfl
      · intro _ _ _ _ posted
        simp only [Service.setAttempt] at pending ⊢
        rw [pending]
        exact List.mem_append_left _ posted

theorem AttemptsInv.postConnect (posting : (service.attempts index).posting) :
    AttemptsInv ((service.setAttempt index
      { service.attempts index with posting := false }).post (.connect index)) := by
  have old := inv.attempt index
  have started := (old.posting posting).1
  rcases old.fresh (.inr posting) with ⟨absent, apart, unheld, unestablished, incomplete⟩
  have unfresh : ¬((service.attempts index).started = false ∨ false = true) := by
    simp [started]
  refine inv.post rfl (fun _ => ?_) (fun _ next pending turn held alive waking => ?_)
  · exact { old with
      fresh := fun is => absurd is unfresh
      posting := nofun
      progress := by simp }
  · have inside : .connect index ∈ next.pending := by simp [pending]
    exact { old with
      fresh := fun is => absurd is unfresh
      posting := nofun
      once := by
        rw [pending, List.count_append, List.count_eq_zero.mpr absent]
        simp
      pending := fun _ => by rw [turn, held]; exact ⟨apart, unheld, unestablished, incomplete⟩
      progress := fun _ _ _ _ => .inr (.inl inside)
      handshake := fun _ _ => incomplete
      isOpen := fun _ is => nomatch unestablished.symm.trans is
      kept := fun _ is => nomatch unestablished.symm.trans is
      waits := by rw [waking]; exact old.waits }

omit inv in
theorem AttemptInv.posted (inv : AttemptInv service index attempt)
    (pending : next.pending = service.pending ++ [command])
    (other : ∀ index, command ≠ .connect index) (turn : next.turn = service.turn)
    (held : next.held = service.held) (alive : next.destroying = service.destroying)
    (waking : next.waking = service.waking) : AttemptInv next index attempt := by
  refine inv.keep ?_ ?_ ?_ ?_ ?_ ?_
  · rw [pending, List.count_append, List.count_singleton, beq_eq_false_iff_ne.mpr (other index)]
    rfl
  · intro _ _ _ _ posted
    rw [pending]
    exact List.mem_append_left _ posted
  · rw [turn]
    exact id
  · rw [held]
  · rw [alive]
    exact id
  · rw [waking]
    exact fun _ => id

theorem AttemptsInv.postClose :
    AttemptsInv ((service.setAttempt index
      { service.attempts index with leaving := false }).post (.close index)) := by
  have old := inv.attempt index
  refine inv.post rfl (fun gone => ?_) (fun alive next pending turn held still waking => ?_)
  · exact { old with
      progress := by simpa using old.progress
      kept := fun _ _ alive => nomatch gone.symm.trans alive }
  · have posted := old.posted pending nofun turn held (still.trans alive.symm) waking
    have inside : .close index ∈ next.pending := by simp [pending]
    exact { posted with kept := fun _ _ _ => .inr (.inr (.inr (.inr inside))) }

theorem AttemptsInv.dropStream (nonempty : 0 < (service.attempts index).streams) :
    AttemptsInv ((service.setAttempt index
      { service.attempts index with streams := (service.attempts index).streams - 1 }).post
      (.close index)) := by
  have old := inv.attempt index
  have given : ¬(service.attempts index).owns := fun owns => by
    rw [(old.owns owns).2] at nonempty
    cases nonempty
  have fewer : (service.attempts index).streams - 1 ≤ 1 := by
    have most := old.streams
    omega
  refine inv.post rfl (fun gone => ?_) (fun alive next pending turn held still waking => ?_)
  · exact { old with
      progress := by simpa using old.progress
      owns := fun is => absurd is given
      streams := fewer
      kept := fun _ _ alive => nomatch gone.symm.trans alive }
  · have posted := old.posted pending nofun turn held (still.trans alive.symm) waking
    have inside : .close index ∈ next.pending := by simp [pending]
    exact { posted with
      owns := fun is => absurd is given
      streams := fewer
      kept := fun _ _ _ => .inr (.inr (.inr (.inr inside))) }

theorem AttemptsInv.postWrite : AttemptsInv (service.post (.write index)) := by
  have posted : AttemptsInv ((service.setAttempt index (service.attempts index)).post
      (.write index)) := by
    have old := inv.attempt index
    refine inv.post rfl (fun _ => ?_) (fun alive next pending turn held still waking => ?_)
    · exact { old with progress := by simpa using old.progress }
    · exact old.posted pending nofun turn held (still.trans alive.symm) waking
  rwa [Service.setAttempt, Function.update_eq_self] at posted

theorem AttemptsInv.dropAttempt (alive : (service.attempts index).dropped = false)
    (settled : (service.attempts index).posting = false) :
    AttemptsInv (service.dropAttempt index) := by
  have old := inv.attempt index
  simp only [Service.dropAttempt, Bool.not_eq_true']
  split
  · rename_i given
    have complete : (service.attempts index).connect.complete :=
      (old.given given).resolve_left fun is => nomatch alive.symm.trans is
    exact inv.setAttempt { old with
      posting := fun is => nomatch settled.symm.trans is
      progress := nofun
      cancelled := fun _ => rfl
      dropped := fun _ is => nomatch complete.symm.trans is
      owns := fun is => nomatch given.symm.trans is
      given := fun _ => .inl rfl
      waits := nofun }
  · rename_i owns
    have owns := eq_true_of_ne_false owns
    exact inv.setAttempt { old with
      posting := fun is => nomatch settled.symm.trans is
      progress := nofun
      cancelled := fun _ => rfl
      dropped := fun _ is => by
        simp only at is
        simp [is]
      owns := nofun
      given := fun _ => .inl rfl
      kept := fun member established _ => by
        rcases (old.isOpen member established).2 with ⟨complete, error⟩ | closing
        · exact .inr (.inr (.inl (by simp [complete, error])))
        · exact .inr (.inr (.inr (.inl closing)))
      waits := nofun }

/-! ## The turn -/

theorem AttemptsInv.advance (shared : ServiceInv next)
    (attempts : next.attempts = service.attempts) (pending : next.pending = service.pending)
    (connects : ∀ index, next.turn.connects = some index → service.turn.connects = some index)
    (held : next.held = service.held) (destroying : next.destroying = service.destroying)
    (waking : next.waking = service.waking) : AttemptsInv next := by
  refine ⟨shared, fun index => ?_⟩
  rw [attempts]
  refine (inv.attempt index).keep (by rw [pending]) ?_ (connects index) (by rw [held]) ?_ ?_
  · intro _ _ _ _ posted
    exact pending ▸ posted
  · exact fun is => destroying ▸ is
  · exact fun _ is => waking.trans is

end

theorem ServiceInv.goOn (shared : ServiceInv service) (live : service.turn.live)
    (destroying : next.destroying = service.destroying) (ctx : next.ctx = service.ctx)
    (still : next.turn.live) (held : next.held.Nodup)
    (piped : next.commands ≠ [] → next.pipe ∨ next.turn = .reported) : ServiceInv next := by
  have alive : next.destroying = false := by
    rw [destroying, shared.destroying, live]
    rfl
  have undestroyed : ∀ {turn : Turn}, turn.live → turn ≠ .destroyed := by
    rintro turn live rfl
    cases live
  exact {
    piped := fun _ => piped
    destroying := by rw [alive, still]; rfl
    ctx := by
      rw [ctx, shared.ctx]
      exact ⟨fun is => absurd is (undestroyed live), fun is => absurd is (undestroyed still)⟩
    dropped := fun is => nomatch alive.symm.trans is
    held := held
    closed := fun is => absurd is (undestroyed still) }

theorem AttemptsInv.report (inv : AttemptsInv service) (idle : service.turn = .idle) :
    AttemptsInv { service with pipe := false, turn := .reported } := by
  refine inv.advance (inv.shared.goOn (by rw [idle]; rfl) rfl rfl rfl inv.shared.held ?_)
    rfl ?_ ?_ rfl rfl rfl
  · exact fun _ => .inr rfl
  · simp [Service.pending, Turn.batch, idle]
  · simp [Turn.connects, idle]

theorem AttemptsInv.takeCommands (inv : AttemptsInv service) (reported : service.turn = .reported) :
    AttemptsInv { service with commands := [], turn := .running service.commands } := by
  refine inv.advance (inv.shared.goOn (by rw [reported]; rfl) rfl rfl rfl inv.shared.held ?_)
    rfl ?_ ?_ rfl rfl rfl
  · exact nofun
  · simp [Service.pending, Turn.batch, reported]
  · simp [Turn.connects, reported]

/-- Outside of the report the queue has made the pipe readable. -/
theorem ServiceInv.piped_of_ne (shared : ServiceInv service) (live : service.turn.live)
    (other : service.turn ≠ .reported) (nonempty : service.commands ≠ []) : service.pipe := by
  have alive : service.destroying = false := by
    rw [shared.destroying, live]
    rfl
  exact (shared.piped alive nonempty).resolve_right other

theorem AttemptsInv.commandsDone (inv : AttemptsInv service) (done : service.turn = .running []) :
    AttemptsInv { service with turn := .idle } := by
  have live : service.turn.live := by rw [done]; rfl
  refine inv.advance (inv.shared.goOn live rfl rfl rfl inv.shared.held ?_) rfl ?_ ?_ rfl rfl rfl
  · exact fun nonempty => .inl (inv.shared.piped_of_ne live (by rw [done]; nofun) nonempty)
  · simp [Service.pending, Turn.batch, done]
  · simp [Turn.connects, done]

theorem Service.pending_running (turn : service.turn = .running (command :: rest))
    (batch : next.turn.batch = rest) (commands : next.commands = service.commands) :
    service.pending = command :: next.pending := by
  rw [Service.pending, Service.pending, turn, batch, commands]
  rfl

theorem AttemptInv.ran (inv : AttemptInv service index attempt)
    (turn : service.turn = .running (command :: rest)) (other : command ≠ .connect index)
    (close : command = .close index → index ∈ service.held → attempt.established →
      attempt.closing) (batch : next.turn.batch = rest)
    (commands : next.commands = service.commands) (connects : next.turn.connects ≠ some index)
    (held : index ∈ next.held ↔ index ∈ service.held) (alive : next.destroying = service.destroying)
    (waking : next.waking = service.waking) : AttemptInv next index attempt := by
  have pending := Service.pending_running turn batch commands
  refine inv.keep ?_ ?_ ?_ held ?_ ?_
  · rw [pending, List.count_cons, beq_eq_false_iff_ne.mpr other]
    rfl
  · intro _ member established unclosed posted
    rw [pending, List.mem_cons] at posted
    refine posted.resolve_left ?_
    rintro rfl
    cases unclosed.symm.trans (close rfl member established)
  · exact fun is => absurd is connects
  · rw [alive]
    exact id
  · rw [waking]
    exact fun _ => id

/-- The connect command of the attempt has been taken from the batch. -/
theorem AttemptInv.connected (inv : AttemptInv service index attempt)
    (turn : service.turn = .running (.connect index :: rest)) (batch : next.turn.batch = rest)
    (commands : next.commands = service.commands) (waking : next.waking = service.waking)
    (either : attempt.dropped ∨ index ∈ next.held) : AttemptInv next index attempt := by
  have pending := Service.pending_running turn batch commands
  have front : .connect index ∈ service.pending := by simp [pending]
  rcases inv.pending front with ⟨-, -, unestablished, incomplete⟩
  have absent : .connect index ∉ next.pending := by
    have once := inv.once
    rw [pending, List.count_cons_self] at once
    exact List.count_eq_zero.mp (by omega)
  exact { inv with
    fresh := fun is => absurd front (inv.fresh is).1
    once := by rw [List.count_eq_zero.mpr absent]; exact Nat.zero_le 1
    pending := fun inside => absurd inside absent
    progress := fun _ _ alive _ => by
      rcases either with dropped | held
      · cases alive.symm.trans dropped
      · exact .inr (.inr held)
    handshake := fun _ _ => incomplete
    isOpen := fun _ is => nomatch unestablished.symm.trans is
    kept := fun _ is => nomatch unestablished.symm.trans is
    waits := by rw [waking]; exact inv.waits }

section

variable (inv : AttemptsInv service)

include inv

theorem AttemptsInv.runCommand (turn : service.turn = .running (command :: rest)) :
    AttemptsInv (service.run rest command) := by
  have live : service.turn.live := by rw [turn]; rfl
  have piped := inv.shared.piped_of_ne live (by rw [turn]; nofun)
  cases command with
  | connect index =>
    have old := inv.attempt index
    have apart : ∀ {other}, other ≠ index → Command.connect index ≠ .connect other :=
      fun different same => different (Command.connect.inj same).symm
    rw [Service.run]
    split
    · rename_i cancelled
      refine ⟨inv.shared.goOn live rfl rfl rfl inv.shared.held
        fun nonempty => .inl (piped nonempty), fun other => ?_⟩
      by_cases same : other = index
      · subst same
        exact old.connected turn rfl rfl rfl (.inl (old.cancelled cancelled))
      · exact (inv.attempt other).ran turn (apart same) nofun rfl rfl nofun .rfl rfl rfl
    · have unheld : index ∉ service.held := by
        refine (old.pending ?_).2.1
        simp [Service.pending, turn, Turn.batch]
      refine ⟨inv.shared.goOn live rfl rfl rfl (List.nodup_cons.mpr ⟨unheld, inv.shared.held⟩)
        fun nonempty => .inl (piped nonempty), fun other => ?_⟩
      by_cases same : other = index
      · subst same
        exact old.connected turn rfl rfl rfl (.inr List.mem_cons_self)
      · refine (inv.attempt other).ran turn (apart same) nofun rfl rfl ?_ ?_ rfl rfl
        · simp [Turn.connects, Ne.symm same]
        · simp [same]
  | close index =>
    have old := inv.attempt index
    have apart : ∀ {other}, other ≠ index → Command.close index ≠ .close other :=
      fun different same => different (Command.close.inj same).symm
    rw [Service.run]
    split
    · have closing : AttemptInv service index
          { service.attempts index with closing := true } :=
        { old with
          isOpen := fun member established => ⟨(old.isOpen member established).1, .inr rfl⟩
          kept := fun _ _ _ => .inr (.inr (.inr (.inl rfl))) }
      refine .change rfl (inv.shared.goOn live rfl rfl rfl inv.shared.held
        fun nonempty => .inl (piped nonempty)) ?_ fun other different => ?_
      · exact closing.ran turn nofun (fun _ _ _ => rfl) rfl rfl nofun .rfl rfl rfl
      · exact (inv.attempt other).ran turn nofun (fun same => absurd same (apart different))
          rfl rfl nofun .rfl rfl rfl
    · rename_i gone
      refine ⟨inv.shared.goOn live rfl rfl rfl inv.shared.held
        fun nonempty => .inl (piped nonempty), fun other => ?_⟩
      refine (inv.attempt other).ran turn nofun ?_ rfl rfl nofun .rfl rfl rfl
      rintro ⟨⟩ member established
      exact absurd (old.isOpen member established).1 gone
  | write index =>
    refine ⟨inv.shared.goOn live rfl rfl rfl inv.shared.held fun nonempty => .inl (piped nonempty),
      fun other => ?_⟩
    exact (inv.attempt other).ran turn nofun nofun rfl rfl nofun .rfl rfl rfl

/-! ## Callbacks -/

omit inv in
theorem ServiceInv.undestroyed (shared : ServiceInv service) (held : index ∈ service.held) :
    service.turn ≠ .destroyed := by
  intro is
  rw [(shared.closed is).1] at held
  cases held

/-- lws has the connection, or is about to return that it has none. -/
theorem AttemptsInv.closeConnection (quiet : service.waking = none)
    (live : service.turn ≠ .destroyed)
    (reached : index ∈ service.held ∨ service.turn.connects = some index) (errno : ConnectErrno)
    (reason : String) : AttemptsInv (service.closeConnection index errno reason) := by
  have shared := inv.shared
  have old := inv.attempt index
  have unfresh :
      ¬((service.attempts index).started = false ∨ (service.attempts index).posting) := by
    intro fresh
    rcases old.fresh fresh with ⟨-, apart, unheld, -⟩
    exact reached.elim unheld apart
  have absent : .connect index ∉ service.pending := by
    intro inside
    rcases old.pending inside with ⟨apart, unheld, -⟩
    exact reached.elim unheld apart
  have erased : index ∉ service.held.erase index := shared.held.not_mem_erase
  have others : ∀ {next : Service Waker} {other : Nat}, other ≠ index →
      next.pending = service.pending → next.turn = service.turn →
      next.held = service.held.erase index → next.destroying = service.destroying →
      AttemptInv next other (service.attempts other) := by
    intro next other different pending turn held destroying
    refine (inv.attempt other).keep (by rw [pending]) ?_ (by rw [turn]; exact id) ?_ ?_ ?_
    · rw [pending]
      exact fun _ _ _ _ => id
    · rw [held]
      exact List.mem_erase_of_ne different
    · rw [destroying]
      exact id
    · intro waker is
      cases quiet.symm.trans is
  rw [Service.closeConnection]
  split
  · rename_i complete
    refine .change rfl { shared with
      held := shared.held.erase _
      closed := fun is => absurd is live } { old with
        fresh := fun is => absurd is unfresh
        pending := fun inside => absurd inside absent
        progress := fun _ _ _ _ => .inl complete
        handshake := fun inside => absurd inside erased
        isOpen := fun inside => absurd inside erased
        kept := fun inside => absurd inside erased } fun other different => ?_
    exact others different rfl rfl rfl rfl
  · rename_i incomplete
    refine .change rfl { shared with
      held := shared.held.erase _
      closed := fun is => absurd is live } { old with
        fresh := fun is => absurd is unfresh
        pending := fun inside => absurd inside absent
        progress := fun _ _ _ _ => .inl rfl
        dropped := nofun
        given := fun _ => .inr rfl
        error := nofun
        handshake := fun inside => absurd inside erased
        isOpen := fun inside => absurd inside erased
        kept := fun inside => absurd inside erased
        waits := ?_ } fun other different => ?_
    · intro waker waiting unwoken alive
      rcases old.waits waker waiting unwoken alive with ⟨-, stored⟩ | woken
      · exact .inr (by simp [stored])
      · cases quiet.symm.trans woken
    · exact others different rfl rfl rfl rfl

theorem AttemptsInv.establish (quiet : service.waking = none) (held : index ∈ service.held)
    (handshake : (service.attempts index).established = false) :
    AttemptsInv (service.establish index) := by
  have shared := inv.shared
  have old := inv.attempt index
  have incomplete := old.handshake held handshake
  have live := shared.undestroyed held
  rw [Service.establish]
  split
  · exact inv.setAttempt { old with
      fresh := fun is => absurd held (old.fresh is).2.2.1
      pending := fun inside => absurd held (old.pending inside).2.1
      handshake := nofun
      isOpen := fun _ _ => ⟨rfl, .inr rfl⟩
      kept := fun _ _ _ => .inr (.inr (.inr (.inl rfl))) }
  · rename_i uncancelled
    have alive : (service.attempts index).dropped = false :=
      eq_false_of_ne_true fun is => uncancelled (old.dropped is incomplete)
    have owns : (service.attempts index).owns := by
      by_contra given
      rcases old.given (eq_false_of_ne_true given) with dropped | complete
      · cases alive.symm.trans dropped
      · cases incomplete.symm.trans complete
    refine .change rfl { shared with closed := fun is => absurd is live } { old with
      fresh := fun is => absurd held (old.fresh is).2.2.1
      pending := fun inside => absurd held (old.pending inside).2.1
      progress := fun _ _ _ _ => .inl rfl
      dropped := nofun
      given := fun _ => .inr rfl
      error := nofun
      handshake := nofun
      isOpen := fun _ _ => ⟨rfl, .inl ⟨rfl, old.error incomplete⟩⟩
      kept := fun _ _ _ => .inl ⟨owns, (old.owns owns).2⟩
      waits := ?_ } fun other different => ?_
    · intro waker waiting unwoken alive
      rcases old.waits waker waiting unwoken alive with ⟨-, stored⟩ | woken
      · exact .inr (by simp [stored])
      · cases quiet.symm.trans woken
    · exact (inv.attempt other).keep rfl (fun _ _ _ _ => id) id .rfl id
        fun waker is => nomatch quiet.symm.trans is

theorem AttemptsInv.wake [DecidableEq Waker] (woken : service.wake = some next) :
    AttemptsInv next := by
  have shared := inv.shared
  rw [Service.wake] at woken
  split at woken <;> cases woken
  rename_i index waker waking
  have old := inv.attempt index
  refine .change rfl { shared with closed := ?_ } ?_ fun other different => ?_
  · intro is
    exact ⟨(shared.closed is).1, rfl⟩
  · exact { old with
      waits := fun waker' waiting unwoken alive => by
        simp only [Bool.or_eq_false_iff, decide_eq_false_iff_not] at unwoken
        rcases old.waits waker' waiting unwoken.1 alive with stored | woken
        · exact .inl stored
        · cases waking.symm.trans woken
          exact absurd waiting unwoken.2 }
  · refine (inv.attempt other).keep rfl (fun _ _ _ _ => id) id .rfl id ?_
    intro waker' is
    cases waking.symm.trans is
    exact absurd rfl different

/-! ## The end of the context -/

omit inv in
theorem Service.foldl_discard (commands : List Command) :
    commands.foldl Service.discard service = { service with
      attempts := fun index =>
        if .connect index ∈ commands then { service.attempts index with unrun := true }
        else service.attempts index } := by
  induction commands generalizing service with
  | nil => simp
  | cons command rest induction =>
    rw [List.foldl_cons, induction]
    cases command with
    | connect target =>
      simp only [Service.discard, Service.setAttempt, List.mem_cons, Command.connect.injEq]
      congr 1
      funext index
      by_cases same : index = target
      · simp [same]
      · simp [same]
    | close target => simp [Service.discard]
    | write target => simp [Service.discard]

omit inv in
theorem AttemptInv.destroy (old : AttemptInv service index attempt)
    (pending : service.pending = service.commands) (empty : next.pending = [])
    (connects : next.turn.connects = none) (held : next.held = service.held)
    (gone : next.destroying) (waking : next.waking = service.waking) :
    AttemptInv next index (if .connect index ∈ service.commands then
      { attempt with unrun := true } else attempt) := by
  have absent : .connect index ∉ next.pending := by simp [empty]
  have kept : AttemptInv next index { attempt with unrun := true } := { old with
    fresh := fun is => by
      rw [connects, held]
      exact ⟨absent, nofun, (old.fresh is).2.2⟩
    once := by simp [empty]
    pending := fun inside => absurd inside absent
    progress := nofun
    handshake := by rw [held]; exact old.handshake
    isOpen := by rw [held]; exact old.isOpen
    kept := fun _ _ alive => nomatch gone.symm.trans alive
    waits := by rw [waking]; exact old.waits }
  split
  · exact kept
  · rename_i unposted
    exact { kept with
      progress := fun started settled alive ran => by
        rw [held]
        rcases old.progress started settled alive ran with complete | inside | holds
        · exact .inl complete
        · exact absurd (pending ▸ inside) unposted
        · exact .inr (.inr holds) }

theorem AttemptsInv.destroy (idle : service.turn = .idle) (ctx : service.ctx) :
    AttemptsInv service.destroy := by
  rw [Service.destroy, Service.foldl_discard]
  refine ⟨{ inv.shared with
    piped := nofun
    destroying := rfl
    ctx := by simp [ctx]
    dropped := fun _ => rfl
    closed := nofun }, fun index => ?_⟩
  refine (inv.attempt index).destroy ?_ rfl rfl rfl rfl rfl
  simp [Service.pending, idle, Turn.batch]

theorem AttemptsInv.finishDestroy (quiet : service.waking = none)
    (destroying : service.turn = .destroying) (empty : service.held = []) :
    AttemptsInv { service with ctx := false, turn := .destroyed } := by
  have shared := inv.shared
  have gone : service.destroying := by
    rw [shared.destroying, destroying]
    rfl
  refine inv.advance { shared with
    piped := fun alive => nomatch gone.symm.trans alive
    destroying := gone
    ctx := by simp
    closed := fun _ => ⟨empty, quiet⟩ } rfl ?_ ?_ rfl rfl rfl
  · simp [Service.pending, Turn.batch, destroying]
  · simp [Turn.connects, destroying]

theorem AttemptsInv.release : AttemptsInv service.release := by
  rw [Service.release]
  split
  · exact inv
  · exact inv.advance { inv.shared with piped := fun _ _ => .inl rfl } rfl rfl (fun _ => id) rfl
      rfl rfl

/-! ## Runs -/

theorem AttemptsInv.connectReturns (turn : service.turn = .connecting index rest) :
    AttemptsInv { service with turn := .running rest } := by
  have live : service.turn.live := by rw [turn]; rfl
  refine inv.advance (inv.shared.goOn live rfl rfl rfl inv.shared.held ?_) rfl ?_ nofun rfl rfl rfl
  · exact fun nonempty => .inl (inv.shared.piped_of_ne live (by rw [turn]; nofun) nonempty)
  · simp [Service.pending, Turn.batch, turn]

omit inv in
theorem Service.turn_closeConnection (errno : ConnectErrno) (reason : String) :
    (service.closeConnection index errno reason).turn = service.turn := by
  rw [Service.closeConnection]
  split <;> rfl

theorem AttemptsInv.turnStep (quiet : service.waking = none)
    (stepped : service.turnStep move = some next) : AttemptsInv next := by
  cases move with simp only [Service.turnStep] at stepped
  | report =>
    split at stepped
    · rename_i idle
      rcases of_guard stepped with ⟨_, rfl⟩
      exact inv.report idle
    · cases stepped
  | takeCommands =>
    split at stepped <;> cases stepped
    rename_i reported
    exact inv.takeCommands reported
  | runCommand =>
    split at stepped <;> cases stepped
    rename_i turn
    exact inv.runCommand turn
  | connectReturns ok =>
    split at stepped
    · rename_i index rest turn
      split at stepped
      · cases stepped
        exact inv.connectReturns turn
      · cases stepped
        have closed := inv.closeConnection quiet (by rw [turn]; nofun)
          (.inr (by rw [turn]; rfl)) .econnrefused "lws_client_connect_via_info failed"
        exact closed.connectReturns ((Service.turn_closeConnection _ _).trans turn)
    · cases stepped
  | commandsDone =>
    split at stepped <;> cases stepped
    rename_i done
    exact inv.commandsDone done
  | established index =>
    rcases of_guard stepped with ⟨may, rfl⟩
    exact inv.establish quiet may.1 may.2
  | connectionError index reason =>
    rcases of_guard stepped with ⟨may, rfl⟩
    exact inv.closeConnection quiet (inv.shared.undestroyed may.1) (.inl may.1) _ _
  | closed index =>
    rcases of_guard stepped with ⟨held, rfl⟩
    exact inv.closeConnection quiet (inv.shared.undestroyed held) (.inl held) _ _
  | destroy =>
    split at stepped
    · rename_i idle
      rcases of_guard stepped with ⟨may, rfl⟩
      exact inv.destroy idle (Bool.and_eq_true_iff.mp may).1
    · cases stepped
  | finishDestroy =>
    split at stepped
    · rename_i destroying
      rcases of_guard stepped with ⟨empty, rfl⟩
      exact inv.finishDestroy quiet destroying empty
    · cases stepped
  | poll | postConnect | dropAttempt | postClose | dropStream | postWrite | release | shutdown
  | wake => cases stepped

theorem AttemptsInv.step [DecidableEq Waker] (stepped : service.step move = some next) :
    AttemptsInv next := by
  cases move with simp only [Service.step] at stepped
  | poll index waker =>
    rcases of_guard stepped with ⟨may, rfl⟩
    exact inv.poll (Bool.and_eq_true_iff.mp may).1 waker
  | postConnect index =>
    rcases of_guard stepped with ⟨posting, rfl⟩
    exact inv.postConnect posting
  | dropAttempt index =>
    split at stepped
    · cases stepped
    · rename_i may
      simp only [Bool.or_eq_true, not_or, Bool.not_eq_true] at may
      cases stepped
      exact inv.dropAttempt may.1 may.2
  | postClose index =>
    rcases of_guard stepped with ⟨_, rfl⟩
    exact inv.postClose
  | dropStream index =>
    rcases of_guard stepped with ⟨nonempty, rfl⟩
    exact inv.dropStream nonempty
  | postWrite index =>
    cases stepped
    exact inv.postWrite
  | release =>
    cases stepped
    exact inv.release
  | shutdown =>
    cases stepped
    exact inv.advance { inv.shared with } rfl rfl (fun _ => id) rfl rfl rfl
  | wake => exact inv.wake stepped
  | report | takeCommands | runCommand | connectReturns | commandsDone | established
  | connectionError | closed | destroy | finishDestroy =>
    split at stepped
    · rename_i quiet
      exact inv.turnStep (Option.isNone_iff_eq_none.mp quiet) stepped
    · cases stepped

omit inv in
theorem AttemptsInv.initial [DecidableEq Waker] : AttemptsInv (serviceMachine Waker).initial where
  shared := by
    constructor <;> simp [serviceMachine, Turn.live]
  attempt index := by
    constructor <;> simp [serviceMachine, Service.pending, Turn.batch, Turn.connects]

/-- Connect attempts end, posted commands are run, and no connection is forgotten. The attempts
that are `excused` need not end. -/
structure Served (excused : Attempt Waker → Bool) (service : Service Waker) : Prop where
  /-- Once the context is destroyed, an attempt that was polled and not dropped is complete, and
  its waker was woken. -/
  ended : service.ctx = false → ∀ index, excused (service.attempts index) = false →
    (service.attempts index).started → (service.attempts index).posting = false →
    (service.attempts index).dropped = false →
    (service.attempts index).connect.complete ∧
      ((service.attempts index).waiting.isSome → (service.attempts index).woken)
  /-- While the context is alive, a command that was posted and not run has a wake of the pipe
  pending or is in the hands of `run_commands()`. -/
  posted : service.ctx → service.destroying = false → service.pending ≠ [] →
    service.pipe ∨ service.turn = .reported ∨ service.turn.batch ≠ []
  /-- An established connection is that of one stream, or of its attempt, or is told to close:
  by a flag, by a close that is posted or about to be, or by the end of the context. -/
  owned : ∀ index, (service.attempts index).established →
    (service.attempts index).Kept service index ∨ index ∉ service.held ∨ service.destroying
  /-- There are not two owners. -/
  single : ∀ index,
    (service.attempts index).owns.toNat + (service.attempts index).streams ≤ 1

theorem AttemptsInv.served : Served Attempt.unrun service where
  ended gone index ran started settled alive := by
    have attempt := inv.attempt index
    have destroyed := inv.shared.ctx.mp gone
    rcases inv.shared.closed destroyed with ⟨empty, quiet⟩
    have destroying : service.destroying := by rw [inv.shared.destroying, destroyed]; rfl
    have complete : (service.attempts index).connect.complete := by
      rcases attempt.progress started settled alive ran with complete | inside | held
      · exact complete
      · simp [Service.pending, destroyed, Turn.batch, inv.shared.dropped destroying] at inside
      · rw [empty] at held
        cases held
    refine ⟨complete, fun waiting => ?_⟩
    rcases Option.isSome_iff_exists.mp waiting with ⟨waker, is⟩
    by_contra unwoken
    rcases attempt.waits waker is (eq_false_of_ne_true unwoken) alive with ⟨incomplete, -⟩ | woken
    · cases incomplete.symm.trans complete
    · cases quiet.symm.trans woken
  posted _ alive nonempty := by
    by_cases empty : service.commands = []
    · refine .inr (.inr ?_)
      simpa [Service.pending, empty] using nonempty
    · exact (inv.shared.piped alive empty).imp_right .inl
  owned index established := by
    by_cases held : index ∈ service.held
    · cases destroying : service.destroying with
      | false => exact .inl ((inv.attempt index).kept held established destroying)
      | true => exact .inr (.inr rfl)
    · exact .inr (.inl held)
  single index := by
    have attempt := inv.attempt index
    cases owns : (service.attempts index).owns with
    | false => simpa using attempt.streams
    | true => simp [(attempt.owns owns).2]

end

theorem attempts_served [DecidableEq Waker]
    (reached : (serviceMachine Waker).Reaches anyMove service) :
    Served Attempt.unrun service := by
  have inv : AttemptsInv service := by
    refine reached.invariant _ ?_ .initial
    exact fun service move next inv _ stepped => inv.step stepped
  exact inv.served

/-- The context is destroyed during the handshake of one attempt and before the command of
another has been run. -/
theorem attempts_served_destroyed :
    ∃ service : Service Nat, (serviceMachine Nat).Reaches anyMove service ∧
      service.ctx = false ∧ (service.attempts 0).connect.complete ∧ (service.attempts 0).woken ∧
      (service.attempts 1).unrun ∧ Served Attempt.unrun service := by
  refine exists_of_exec
    [.poll 0 5, .postConnect 0, .report, .takeCommands, .runCommand, .connectReturns true,
      .commandsDone, .poll 1 6, .postConnect 1, .shutdown, .destroy, .closed 0, .wake,
      .finishDestroy]
    (by decide +kernel) fun reached => ⟨?_, ?_, ?_, ?_, attempts_served reached⟩
  all_goals decide +kernel

/-- The driver is shut down before the connect command has been run, and nobody tells the
attempt. -/
theorem dropped_connect_never_ends :
    ¬∀ service : Service Nat, (serviceMachine Nat).Reaches anyMove service →
      Served (fun _ => false) service := by
  intro always
  have reached := (serviceMachine Nat).reaches_exec anyMove
    [.poll 0 5, .postConnect 0, .shutdown, .destroy, .finishDestroy] (by decide +kernel)
  have ended := (always _ reached).ended rfl 0 rfl rfl rfl rfl
  exact absurd ended.1 (by decide +kernel)

end CoroRuntime.WebSocket
