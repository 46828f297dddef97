import CoroRuntime.FutureTree.Tree

/-! # Futures are drained before they are destroyed

A future with a `cancel()` that has been polled must not be destroyed before it has returned
something else than Pending. Coroutines, `select()` and `join()` see to that for the futures
that they own directly. They take a future without a `cancel()` for a leaf, which `select()`
and `join()` themselves are not, and an exception goes through `select()` and `join()` to the
coroutine that awaits them.
-/

namespace CoroRuntime.FutureTree

open Foundation
open Function (update update_self update_of_ne)
open Combinators (BranchState)

variable {tree tree' : Tree} {ctx ctx' : Context}

/-- No future with a `cancel()` in the tree has been polled and not returned. -/
def Tree.Settled (tree : Tree) : Prop :=
  ∀ part, Below part tree → part.cancellable → part.life.polled → part.life.resolved

/-- A `select()` or a `join()`, or a `when()` around one. -/
def Tree.combines : Tree → Bool
  | .combined .. => true
  | .wrapped _ _ .when inner => inner.combines
  | _ => false

def Tree.bare : Tree → Bool
  | .leaf _ _ cancellable | .empty _ _ _ cancellable => !cancellable
  | .body _ _ kind _ => decide (kind ≠ .coro)
  | .awaiting _ _ kind _ awaited => decide (kind ≠ .coro) && awaited.bare
  | .combined _ _ _ _ _ branches => decide (∀ branch, (branches branch).bare)
  | .wrapped _ _ wrapper inner => decide (wrapper ≠ .coInvoke) && inner.bare

/-- Futures with a `cancel()` are not below a `select()` or `join()` that is a branch of another
one or that a cancelled coroutine waits for, and no exception leaves them or a `select()` or
`join()` above them. -/
def Tree.sheltered (tree : Tree) : Bool :=
  decide (tree.outcome? = some .threw → tree.bare) &&
    match tree with
    | .leaf .. | .body .. | .empty .. => true
    | .awaiting _ life _ _ awaited =>
      decide (life.cancelled → awaited.combines → awaited.bare) && awaited.sheltered
    | .combined _ _ _ _ _ branches =>
      decide (∀ branch, ((branches branch).combines → (branches branch).bare) ∧
        (branches branch).sheltered)
    | .wrapped _ _ _ inner => inner.sheltered

/-- A future that is just constructed: of coroutines, `select()`, `join()`, `when()` and
`co_invoke()` around leaves. A `co_invoke()` is around a future with a `cancel()`. -/
def Tree.constructed : Tree → Bool
  | .leaf stage life _ => stage.isIdle && decide (life = {})
  | .body stage life kind frame =>
    stage.isIdle && decide (life = {}) && decide (kind = .coro) && decide (frame = .live)
  | .awaiting .. => false
  | .combined _ stage life _ state branches =>
    stage.isIdle && decide (life = {}) && !state.exception &&
      decide (∀ branch, state.states branch = .active ∧ state.results branch = false) &&
      decide (∀ branch, (branches branch).constructed)
  | .wrapped stage life wrapper inner =>
    stage.isIdle && decide (life = {}) && decide (wrapper ≠ .next) &&
      decide (wrapper = .coInvoke → inner.cancellable) && inner.constructed
  | .empty stage life wrapper _ => stage.isIdle && decide (life = {}) && decide (wrapper = .when)

/-! ## The invariant -/

def Stage.Answered {Work : Type} (stage : Stage Work) (life : Life) : Prop :=
  ∀ outcome, stage = .returned outcome → outcome.final → life.resolved

def Stage.FitsFrame (frame : Frame) : Stage BodyWork → Prop
  | .working .running => frame = .live
  | .working (.closing _) => frame ≠ .live
  | _ => True

/-- Where a combined future is, and what that says about its branches. -/
def Stage.FitsBranches {n : Nat} (combinator : Combinator) (state : Branches n) :
    Stage (Pass n) → Prop
  | .working (.polling branch _) => state.states branch = .active
  | .working (.drain any order) => state.decided combinator ∧
      (any = false → ∀ branch, state.states branch = .draining → branch ∈ order)
  | .working (.draining any polled order) => state.decided combinator ∧
      state.states polled = .draining ∧
      (any = false → ∀ branch, state.states branch = .draining → branch = polled ∨ branch ∈ order)
  | _ => True

structure Branches.Fits {n : Nat} (combinator : Combinator) (life : Life) (state : Branches n) :
    Prop where
  decided : state.decided combinator → ∀ branch, state.states branch ≠ .active
  results : ∀ branch, state.results branch → state.states branch = .done
  resolved : life.resolved → ∀ branch, state.states branch = .done

def Tree.Sound : Tree → Prop
  | .leaf stage life _ | .empty stage life _ _ => stage.Answered life
  | .body stage life kind frame => stage.Answered life ∧ kind = .coro ∧
      (life.resolved → frame ≠ .live) ∧ stage.FitsFrame frame
  | .awaiting stage life kind _ awaited => stage.Answered life ∧ kind = .coro ∧
      life.resolved = false ∧ awaited.Sound
  | .combined _ stage life combinator state branches => stage.Answered life ∧
      state.Fits combinator life ∧ stage.FitsBranches combinator state ∧
      ∀ branch, (branches branch).Sound ∧
        (state.states branch = .done → (branches branch).Settled)
  | .wrapped stage life wrapper inner => stage.Answered life ∧ wrapper ≠ .next ∧
      (life.resolved → wrapper = .when ∧ inner.life.resolved) ∧ inner.Sound

structure Drained (tree : Tree) (ctx : Context) : Prop where
  sound : tree.Sound
  destroyed : ∀ gone ∈ ctx.destroyed, gone.Settled

theorem answered_returned (life : Life) (outcome : Outcome) :
    (Stage.returned outcome : Stage Work).Answered (life.returns outcome) := by
  intro other same final
  cases same
  simp [Life.returns, final]

theorem answered_working (work : Work) (life : Life) :
    (Stage.working work).Answered life := nofun

theorem returns_of_not_final (life : Life) (continues : outcome.final = false) :
    life.returns outcome = life := by
  simp [Life.returns, continues]

namespace Tree

@[simp] theorem life_rest : tree.rest.life = tree.life := by
  cases tree <;> rfl

@[simp] theorem resolved_call : tree.call.life.resolved = tree.life.resolved := by
  cases tree <;> rfl

@[simp] theorem resolved_cancel : tree.cancel.life.resolved = tree.life.resolved := by
  cases tree <;> rfl

@[simp] theorem combines_rest : tree.rest.combines = tree.combines := by
  cases tree with
  | wrapped _ _ wrapper => cases wrapper <;> rfl
  | _ => rfl

@[simp] theorem bare_rest : tree.rest.bare = tree.bare := by
  cases tree <;> rfl

theorem bare_of_threw (sheltered : tree.sheltered) (threw : tree.outcome? = some .threw) :
    tree.bare := by
  unfold Tree.sheltered at sheltered
  exact of_decide_eq_true (Bool.and_eq_true_iff.mp sheltered).1 threw

theorem sheltered_awaiting {life : Life}
    (sheltered : (Tree.awaiting stage life kind awaitable awaited).sheltered) :
    (life.cancelled → awaited.combines → awaited.bare) ∧ awaited.sheltered := by
  simp only [Tree.sheltered, Bool.and_eq_true, decide_eq_true_eq] at sheltered
  exact sheltered.2

theorem sheltered_combined {life : Life} {branches : Fin (n + 1) → Tree}
    (sheltered : (Tree.combined n stage life combinator state branches).sheltered)
    (branch : Fin (n + 1)) :
    ((branches branch).combines → (branches branch).bare) ∧ (branches branch).sheltered := by
  simp only [Tree.sheltered, Bool.and_eq_true, decide_eq_true_eq] at sheltered
  exact sheltered.2 branch

theorem sheltered_wrapped {life : Life} {inner : Tree}
    (sheltered : (Tree.wrapped stage life wrapper inner).sheltered) : inner.sheltered := by
  simp only [Tree.sheltered, Bool.and_eq_true] at sheltered
  exact sheltered.2

theorem not_cancellable_of_bare (bare : tree.bare) : tree.cancellable = false := by
  induction tree with
  | leaf | empty => simpa [Tree.bare, Tree.cancellable] using bare
  | body | awaiting => simp_all [Tree.bare, Tree.cancellable]
  | combined => rfl
  | wrapped _ _ wrapper _ induction =>
    simp only [Tree.bare, Bool.and_eq_true, decide_eq_true_eq] at bare
    cases wrapper with
    | when => exact induction bare.2
    | coInvoke => exact absurd rfl bare.1
    | next => rfl

theorem bare_of_below (below : Below part tree) (bare : tree.bare) : part.bare := by
  induction below with
  | self => exact bare
  | awaited _ induction =>
    simp only [Tree.bare, Bool.and_eq_true] at bare
    exact induction bare.2
  | branch _ induction =>
    simp only [Tree.bare, decide_eq_true_eq] at bare
    exact induction (bare _)
  | inner _ induction =>
    simp only [Tree.bare, Bool.and_eq_true] at bare
    exact induction bare.2

theorem settled_of_bare (bare : tree.bare) : tree.Settled := by
  intro part below cancellable
  cases (not_cancellable_of_bare (bare_of_below below bare)).symm.trans cancellable

namespace Sound

section

variable (sound : tree.Sound)

include sound

theorem call : tree.call.Sound := by
  cases tree with
  | leaf | empty => exact nofun
  | body => exact ⟨nofun, sound.2.1, sound.2.2.1, trivial⟩
  | awaiting => exact ⟨nofun, sound.2⟩
  | combined => exact ⟨nofun, ⟨sound.2.1.1, sound.2.1.2, sound.2.1.3⟩, trivial, sound.2.2.2⟩
  | wrapped => exact ⟨nofun, sound.2⟩

theorem rest : tree.rest.Sound := by
  cases tree with
  | leaf | empty => exact nofun
  | body => exact ⟨nofun, sound.2.1, sound.2.2.1, trivial⟩
  | awaiting => exact ⟨nofun, sound.2⟩
  | combined => exact ⟨nofun, sound.2.1, trivial, sound.2.2.2⟩
  | wrapped => exact ⟨nofun, sound.2⟩

theorem cancel : tree.cancel.Sound := by
  induction tree with
  | wrapped _ _ _ inner induction =>
    refine ⟨sound.1, sound.2.1, ?_, induction sound.2.2.2⟩
    rw [resolved_cancel]
    exact sound.2.2.1
  | _ => exact sound

theorem resolved (returned : tree.outcome? = some outcome) (final : outcome.final) :
    tree.life.resolved := by
  have stage : ∀ {Work : Type} {stage : Stage Work}, stage.outcome? = some outcome →
      stage = .returned outcome := by
    intro Work stage returned
    cases stage <;> simp_all [Stage.outcome?]
  cases tree with
  | leaf | empty => exact sound outcome (stage returned) final
  | body | awaiting | combined | wrapped => exact sound.1 outcome (stage returned) final

theorem settled_of_resolved (resolved : tree.life.resolved) : tree.Settled := by
  induction tree with
  | leaf | body | empty =>
    rintro part below - -
    cases below
    exact resolved
  | awaiting =>
    have pending := sound.2.2.1
    cases pending.symm.trans resolved
  | combined _ _ _ _ _ branches =>
    rintro part below cancellable polled
    cases below with
    | self => cases cancellable
    | @branch _ _ _ _ _ _ branch below =>
      have done := sound.2.1.resolved resolved branch
      exact (sound.2.2.2 branch).2 done part below cancellable polled
  | wrapped _ _ _ inner induction =>
    rintro part below cancellable polled
    cases below with
    | self => exact resolved
    | inner below =>
      have innerResolved := (sound.2.2.1 resolved).2
      exact induction sound.2.2.2 innerResolved part below cancellable polled

theorem settled_of_leaf (leaf : tree.cancellable = false)
    (bare : tree.combines → tree.bare) : tree.Settled := by
  induction tree with
  | leaf | empty =>
    rintro part below cancellable -
    cases below
    cases leaf.symm.trans cancellable
  | body | awaiting => simp [cancellable, sound.2.1] at leaf
  | combined => exact settled_of_bare (bare rfl)
  | wrapped stage life wrapper inner induction =>
    cases wrapper with
    | when =>
      rintro part below cancellable polled
      cases below with
      | self => cases leaf.symm.trans cancellable
      | inner below =>
        have innerBare : inner.combines → inner.bare := by
          intro combines
          simpa [Tree.bare] using bare combines
        exact induction sound.2.2.2 leaf innerBare part below cancellable polled
    | coInvoke => cases leaf
    | next => exact absurd rfl sound.2.1

end

theorem of_constructed (constructed : tree.constructed) : tree.Sound := by
  induction tree with
  | leaf stage | empty stage =>
    cases stage <;> simp [Tree.constructed, Stage.isIdle] at constructed
    exact nofun
  | body stage =>
    cases stage <;> simp [Tree.constructed, Stage.isIdle] at constructed
    rcases constructed with ⟨⟨rfl, rfl⟩, rfl⟩
    exact ⟨nofun, rfl, nofun, trivial⟩
  | awaiting => cases constructed
  | combined n stage _ combinator _ _ induction =>
    cases stage <;> simp [Tree.constructed, Stage.isIdle] at constructed
    rcases constructed with ⟨⟨⟨rfl, exception⟩, active⟩, branches⟩
    refine ⟨nofun, ⟨?_, ?_, nofun⟩, trivial, ?_⟩
    · intro decided
      cases combinator <;> simp [Branches.decided, exception, active] at decided
    · intro branch result
      cases (active branch).2.symm.trans result
    · refine fun branch => ⟨induction branch (branches branch), ?_⟩
      intro done
      cases (active branch).1.symm.trans done
  | wrapped stage _ wrapper _ induction =>
    cases stage <;> simp [Tree.constructed, Stage.isIdle] at constructed
    rcases constructed with ⟨⟨⟨rfl, known⟩, -⟩, inner⟩
    exact ⟨nofun, known, nofun, induction inner⟩

end Sound

end Tree

/-! ## One move -/

section Branches

variable {n : Nat} {life : Life} {combinator : Combinator} {state : Branches (n + 1)}
  {branches : Fin (n + 1) → Tree}

theorem done_of_update {states : Fin (n + 1) → BranchState}
    (done : other ≠ branch → states other = .done) : update states branch .done other = .done := by
  by_cases same : other = branch
  · rw [same, update_self]
  · rw [update_of_ne same]
    exact done same

theorem state_of_update {other : Fin (n + 1)} {is : BranchState}
    (updated : update states branch .done other = is) (running : is ≠ .done) :
    other ≠ branch ∧ states other = is := by
  by_cases same : other = branch
  · rw [same, update_self] at updated
    exact absurd updated.symm running
  · rw [update_of_ne same] at updated
    exact ⟨same, updated⟩

theorem Tree.Sound.updateBranch (sound : ∀ branch, (branches branch).Sound ∧
      (state.states branch = .done → (branches branch).Settled))
    (running : state.states branch ≠ .done) (changed : tree.Sound) (other : Fin (n + 1)) :
    (update branches branch tree other).Sound ∧
      (state.states other = .done → (update branches branch tree other).Settled) := by
  by_cases same : other = branch
  · subst same
    rw [update_self]
    exact ⟨changed, fun done => absurd done running⟩
  · rw [update_of_ne same]
    exact sound other

theorem Tree.Sound.finishBranch (sound : ∀ branch, (branches branch).Sound ∧
      (state.states branch = .done → (branches branch).Settled))
    (resolved : (branches branch).life.resolved) (other : Fin (n + 1)) :
    (update branches branch (branches branch).rest other).Sound ∧
      (update state.states branch .done other = .done →
        (update branches branch (branches branch).rest other).Settled) := by
  by_cases same : other = branch
  · subst same
    rw [update_self, update_self]
    have rested := (sound other).1.rest
    exact ⟨rested, fun _ => rested.settled_of_resolved (by rwa [Tree.life_rest])⟩
  · rw [update_of_ne same, update_of_ne same]
    exact sound other

theorem Tree.Sound.cancelRest (sound : ∀ branch, (branches branch).Sound ∧
      (state.states branch = .done → (branches branch).Settled))
    (results : ∀ branch, state.results branch → state.states branch = .done)
    (pending : life.resolved = false)
    (bare : ∀ branch, (branches branch).combines → (branches branch).bare) :
    (Tree.cancelRest life combinator state branches order).Sound := by
  refine ⟨answered_working _ _, ⟨?_, ?_, ?_⟩, trivial, ?_⟩
  · intro _ branch active
    simp only [Branches.cancelActive] at active
    split at active
    · split at active <;> cases active
    · contradiction
  · intro branch result
    simp only [Branches.cancelActive, results branch result]
    rfl
  · intro resolved
    cases pending.symm.trans resolved
  · intro branch
    constructor
    · rw [Branches.cancelledBranches]
      split
      · exact (sound branch).1.cancel
      · exact (sound branch).1
    · intro done
      have untouched : state.cancelledBranches branches branch = branches branch := by
        rw [Branches.cancelledBranches, if_neg]
        rintro ⟨active, cancellable⟩
        simp [Branches.cancelActive, active, cancellable] at done
      rw [untouched]
      by_cases active : state.states branch = .active
      · -- the branch is given up, as a leaf or with nothing to drain
        have leaf : (branches branch).cancellable = false := by
          by_contra cancellable
          simp [Branches.cancelActive, active, cancellable] at done
        exact (sound branch).1.settled_of_leaf leaf (bare branch)
      · simp only [Branches.cancelActive, if_neg active] at done
        exact (sound branch).2 done

end Branches

/-! A future that has returned once has returned. -/

theorem Life.resolved_returns {life : Life} (outcome : Outcome) (resolved : life.resolved) :
    (life.returns outcome).resolved := by
  simp [Life.returns, resolved]

theorem resolved_pollAwaited (resolved : life.resolved)
    (is : Tree.pollAwaited work life kind awaitable awaited ctx = (tree, ctx')) :
    tree.life.resolved := by
  simp only [Tree.pollAwaited] at is
  repeat' split at is
  all_goals cases is
  all_goals first
    | exact resolved
    | exact Life.resolved_returns _ resolved

theorem Acts.resolved (acts : Acts move tree ctx tree' ctx') (resolved : tree.life.resolved) :
    tree'.life.resolved := by
  cases acts with
  | answer | pollEmpty => exact Life.resolved_returns _ resolved
  | consume | yield | pollWrapped => exact resolved
  | pollBody =>
    rw [Tree.pollBody.eq_def]
    repeat' split
    all_goals first
      | exact resolved
      | exact Life.resolved_returns _ resolved
  | stepBody stepped =>
    cases move
    all_goals simp only [Tree.stepBody, Tree.awaitReady, Tree.closeBody] at stepped
    all_goals repeat' split at stepped
    all_goals cases stepped
    all_goals first
      | exact resolved
      | exact Life.resolved_returns _ resolved
  | pollAwaiting is =>
    simp only [Tree.pollAwaiting] at is
    repeat' split at is
    on_goal 3 =>
      cases is
      exact resolved
    all_goals exact resolved_pollAwaited resolved is
  | awaitedReturns returned is =>
    rw [Tree.awaitedReturns.eq_def] at is
    split at is
    all_goals cases is
    all_goals first
      | exact resolved
      | exact Life.resolved_returns _ resolved
  | goCombined pass place stepped =>
    rw [Tree.goCombined.eq_def] at stepped
    repeat' split at stepped
    all_goals cases stepped
    all_goals first
      | exact resolved
      | exact Life.resolved_returns _ resolved
  | activeReturns returned =>
    rw [Tree.activeReturns.eq_def]
    split
    all_goals first
      | exact resolved
      | exact Life.resolved_returns _ resolved
  | drainingReturns returned =>
    simp only [Tree.drainingReturns]
    split
    · exact resolved
    · exact Life.resolved_returns _ resolved
    · exact resolved
  | innerReturns returned is =>
    rw [Tree.innerReturns.eq_def] at is
    split at is
    all_goals cases is
    all_goals exact Life.resolved_returns _ resolved

theorem Steps.resolved (steps : Steps move tree ctx tree' ctx') (resolved : tree.life.resolved) :
    tree'.life.resolved := by
  cases steps with
  | acts acts => exact acts.resolved resolved
  | awaited | branch | inner => exact resolved

/-! ## What is destroyed -/

theorem Context.destroyed_of_consumed (taken : ctx.tryConsumeBudget = some ctx') :
    ctx'.destroyed = ctx.destroyed := by
  rw [Context.tryConsumeBudget] at taken
  repeat' split at taken
  all_goals cases taken
  all_goals rfl

theorem Context.destroyed_of_yielded (spent : ctx.yieldIfBudgetSpent = some ctx') :
    ctx'.destroyed = ctx.destroyed := by
  rw [Context.yieldIfBudgetSpent] at spent
  split at spent
  · cases spent
  · split at spent <;> cases spent <;> rfl

theorem Drained.same (sound : tree.Sound) (destroyed : ∀ gone ∈ ctx.destroyed, gone.Settled)
    (same : ctx'.destroyed = ctx.destroyed) : Drained tree ctx' :=
  ⟨sound, same ▸ destroyed⟩

theorem Drained.destroys (sound : tree.Sound) (destroyed : ∀ gone ∈ ctx.destroyed, gone.Settled)
    (settled : gone.Settled) : Drained tree (ctx.destroys gone) := by
  refine ⟨sound, ?_⟩
  intro other member
  rcases List.mem_append.mp member with before | now
  · exact destroyed other before
  · rw [List.mem_singleton.mp now]
    exact settled

theorem Drained.pollAwaited (pending : life.resolved = false) (sound : awaited.Sound)
    (destroyed : ∀ gone ∈ ctx.destroyed, gone.Settled)
    (is : Tree.pollAwaited work life .coro awaitable awaited ctx = (tree, ctx')) :
    Drained tree ctx' := by
  simp only [Tree.pollAwaited] at is
  split at is
  · split at is
    · cases is
      refine ⟨⟨answered_returned _ _, rfl, ?_, sound⟩, destroyed⟩
      rw [returns_of_not_final _ rfl]
      exact pending
    · rename_i taken
      cases is
      have same := Context.destroyed_of_consumed taken
      exact .same ⟨answered_working _ _, rfl, pending, sound.call⟩ destroyed same
  · cases is
    exact ⟨⟨answered_working _ _, rfl, pending, sound.call⟩, destroyed⟩

theorem Frame.teardown_ne_live (frame : Frame) : frame.teardown ≠ .live := by
  cases frame <;> nofun

theorem Tree.Sound.pollBody {life : Life} (sound : (Tree.body .called life kind frame).Sound) :
    (Tree.pollBody life kind frame).Sound := by
  rcases sound with ⟨-, rfl, live, -⟩
  rw [Tree.pollBody.eq_def]
  split
  · exact ⟨answered_working _ _, rfl, fun _ => frame.teardown_ne_live, frame.teardown_ne_live⟩
  · split
    · exact ⟨answered_returned _ _, rfl, fun _ => nofun, trivial⟩
    · contradiction
    · exact ⟨answered_working _ _, rfl, fun _ => nofun, nofun⟩
    · exact ⟨answered_working _ _, rfl, live, rfl⟩

theorem Tree.Sound.closeBody {life : Life}
    (sound : (Tree.body (.working (.closing outcome)) life kind frame).Sound) (waits : Bool) :
    (Tree.closeBody life kind frame outcome waits).Sound := by
  rcases sound with ⟨-, rfl, -, ended⟩
  rw [Tree.closeBody.eq_def]
  split
  · exact ⟨answered_returned _ _, rfl, fun _ => ended, trivial⟩
  · split
    · exact ⟨answered_returned _ _, rfl, fun _ => ended, trivial⟩
    · exact ⟨answered_returned _ _, rfl, fun _ => ended, trivial⟩
    · exact ⟨answered_returned _ _, rfl, fun _ => nofun, trivial⟩

theorem Drained.stepBody (fresh : ∀ future, move = .await future → future.Sound)
    (drained : Drained (.body (.working work) life kind frame) ctx)
    (stepped : Tree.stepBody work life kind frame ctx move = some (tree, ctx')) :
    Drained tree ctx' := by
  rcases drained with ⟨sound, destroyed⟩
  cases move with simp only [Tree.stepBody] at stepped
  | await future =>
    split at stepped
    · rcases sound with ⟨-, rfl, live, is⟩
      have pending : life.resolved = false := by
        rw [Bool.eq_false_iff]
        exact fun resolved => live resolved is
      split at stepped
      · rw [Option.some.injEq, Tree.awaitReady] at stepped
        split at stepped
        · cases stepped
          refine ⟨⟨answered_returned _ _, rfl, ?_, fresh future rfl⟩, destroyed⟩
          rw [returns_of_not_final _ rfl]
          exact pending
        · rename_i taken
          cases stepped
          have same := Context.destroyed_of_consumed taken
          exact .same ⟨answered_working _ _, rfl, pending, (fresh future rfl).call⟩ destroyed same
      · cases stepped
    · cases stepped
  | finish failed =>
    split at stepped <;> cases stepped
    exact ⟨⟨answered_working _ _, sound.2.1, fun _ => nofun, nofun⟩, destroyed⟩
  | yieldItem =>
    split at stepped
    · cases sound.2.1
    · cases stepped
  | scope waits =>
    split at stepped <;> cases stepped
    exact ⟨sound.closeBody waits, destroyed⟩
  | go | answer | consume | yield => cases stepped

theorem Drained.awaitedReturns
    (drained : Drained (.awaiting (.working work) life kind awaitable awaited) ctx)
    (returned : awaited.outcome? = some outcome) (sheltered : awaited.sheltered)
    (is : Tree.awaitedReturns work life kind awaitable awaited outcome ctx = (tree, ctx')) :
    Drained tree ctx' := by
  rcases drained with ⟨⟨-, rfl, pending, sound⟩, destroyed⟩
  have settled : outcome ≠ .pending → awaited.Settled := by
    intro continues
    cases final : outcome.final with
    | true => exact sound.settled_of_resolved (sound.resolved returned final)
    | false =>
      have threw : outcome = .threw := by cases outcome <;> simp_all [Outcome.final]
      exact Tree.settled_of_bare (Tree.bare_of_threw sheltered (threw ▸ returned))
  have unresolved : ∀ {claim : Prop}, life.resolved → claim :=
    fun resolved => nomatch pending.symm.trans resolved
  rw [Tree.awaitedReturns.eq_def] at is
  split at is
  · cases is
    refine ⟨⟨answered_returned _ _, rfl, ?_, sound.rest⟩, destroyed⟩
    rw [returns_of_not_final _ rfl]
    exact pending
  · rename_i final
    cases is
    refine .destroys ?_ destroyed (settled final)
    exact ⟨answered_working _ _, rfl, fun _ => nofun, nofun⟩
  all_goals
    rename_i final
    cases is
    refine .destroys ?_ destroyed (settled final)
    exact ⟨answered_working _ _, rfl, unresolved, rfl⟩

theorem Drained.pollAwaiting (drained : Drained (.awaiting .called life kind awaitable awaited) ctx)
    (is : Tree.pollAwaiting life kind awaitable awaited ctx = (tree, ctx'))
    (bare : life.cancelled → awaited.combines → awaited.bare) : Drained tree ctx' := by
  rcases drained with ⟨⟨-, rfl, pending, sound⟩, destroyed⟩
  rw [Tree.pollAwaiting] at is
  split at is
  · rename_i cancelled
    split at is
    · exact .pollAwaited pending sound destroyed is
    · split at is
      · exact .pollAwaited pending sound.cancel destroyed is
      · rename_i leaf
        cases is
        have settled : awaited.Settled :=
          sound.settled_of_leaf (Bool.eq_false_iff.mpr leaf) (bare cancelled)
        refine .destroys ?_ destroyed settled
        exact ⟨answered_working _ _, rfl, fun _ => nofun, nofun⟩
  · exact .pollAwaited pending sound destroyed is

theorem Drained.innerReturns {inner : Tree}
    (drained : Drained (.wrapped (.working work) life wrapper inner) ctx)
    (returned : inner.outcome? = some outcome)
    (is : Tree.innerReturns life wrapper inner outcome ctx = (tree, ctx')) : Drained tree ctx' := by
  rcases drained with ⟨⟨-, known, resolved, sound⟩, destroyed⟩
  have final : outcome.final → inner.life.resolved := sound.resolved returned
  rw [Tree.innerReturns.eq_def] at is
  split at is
  case h_4 =>
    rename_i ready error dropped
    cases is
    refine ⟨⟨answered_returned _ _, known, ?_, sound.rest⟩, destroyed⟩
    intro isResolved
    rw [Tree.life_rest]
    cases ends : outcome.final with
    | false =>
      rw [returns_of_not_final _ ends] at isResolved
      exact resolved isResolved
    | true =>
      refine ⟨?_, final ends⟩
      cases wrapper with
      | when => rfl
      | coInvoke => cases outcome <;> simp_all [Outcome.final]
      | next => exact absurd rfl known
  all_goals
    cases is
    refine .destroys ?_ destroyed (sound.settled_of_resolved (final rfl))
    exact answered_returned _ _

section Branches

variable {n : Nat} {life : Life} {combinator : Combinator} {state : Branches (n + 1)}
  {branches : Fin (n + 1) → Tree}

theorem Drained.goCombined {pass : Option (Pass (n + 1))}
    (staged : stage = pass.elim .called .working)
    (drained : Drained (.combined n stage life combinator state branches) ctx)
    (stepped : Tree.goCombined pass life combinator state branches ctx = some (tree, ctx')) :
    Drained tree ctx' := by
  rcases drained with ⟨⟨-, fits, place, sound⟩, destroyed⟩
  subst staged
  cases pass with
  | none =>
    cases stepped
    refine ⟨⟨answered_working _ _, fits, ?_, sound⟩, destroyed⟩
    split
    · rename_i decided
      exact ⟨decided, fun _ branch _ => List.mem_finRange branch⟩
    · trivial
  | some pass =>
    cases pass with
    | active order =>
      cases order with
      | nil =>
        simp only [Tree.goCombined] at stepped
        split at stepped
        · rename_i decided
          cases stepped
          exact ⟨⟨answered_working _ _, ⟨fits.1, fits.2, fits.3⟩,
            ⟨decided, fun _ branch _ => List.mem_finRange branch⟩, sound⟩, destroyed⟩
        · cases stepped
          rw [returns_of_not_final _ rfl]
          exact ⟨⟨nofun, ⟨fits.1, fits.2, fits.3⟩, trivial, sound⟩, destroyed⟩
      | cons branch order =>
        simp only [Tree.goCombined] at stepped
        split at stepped
        · cases stepped
          exact ⟨⟨answered_working _ _, fits, trivial, sound⟩, destroyed⟩
        · rename_i active
          have active := not_not.mp active
          split at stepped
          · rename_i spent
            cases stepped
            have same := Context.destroyed_of_yielded spent
            exact .same ⟨answered_working _ _, fits, trivial, sound⟩ destroyed same
          · cases stepped
            refine ⟨⟨answered_working _ _, fits, active, ?_⟩, destroyed⟩
            exact Tree.Sound.updateBranch sound (by simp [active]) (sound branch).1.call
    | drain any order =>
      cases order with
      | nil =>
        cases stepped
        refine ⟨⟨answered_returned _ _, ⟨fits.1, fits.2, ?_⟩, trivial, sound⟩, destroyed⟩
        intro resolved branch
        cases any with
        | true => exact fits.resolved (by simpa [Life.returns, Outcome.final] using resolved) branch
        | false =>
          have notActive := fits.decided place.1 branch
          have notDraining := mt (place.2 rfl branch) List.not_mem_nil
          cases is : state.states branch with
          | active => exact absurd is notActive
          | draining => exact absurd is notDraining
          | done => rfl
      | cons branch order =>
        simp only [Tree.goCombined] at stepped
        split at stepped
        · rename_i other
          cases stepped
          refine ⟨⟨answered_working _ _, fits, ⟨place.1, ?_⟩, sound⟩, destroyed⟩
          intro undecided branch' draining
          rcases List.mem_cons.mp (place.2 undecided branch' draining) with rfl | later
          · exact absurd draining other
          · exact later
        · rename_i draining
          have draining := not_not.mp draining
          cases stepped
          refine ⟨⟨answered_working _ _, fits, ⟨place.1, draining, ?_⟩, ?_⟩, destroyed⟩
          · intro undecided branch' draining'
            exact List.mem_cons.mp (place.2 undecided branch' draining')
          · exact Tree.Sound.updateBranch sound (by simp [draining]) (sound branch).1.call
    | polling | draining => cases stepped

theorem Tree.combines_update_rest (branch : Fin (n + 1))
    (bare : ∀ branch, (branches branch).combines → (branches branch).bare) (other : Fin (n + 1)) :
    (update branches branch (branches branch).rest other).combines →
      (update branches branch (branches branch).rest other).bare := by
  by_cases same : other = branch
  · subst same
    rw [update_self, Tree.combines_rest, Tree.bare_rest]
    exact bare other
  · rw [update_of_ne same]
    exact bare other

theorem Tree.Sound.activeReturns
    (treeSound : (Tree.combined n (.working (.polling branch order)) life combinator state
      branches).Sound) (returned : (branches branch).outcome? = some outcome)
    (bare : ∀ branch, (branches branch).combines → (branches branch).bare) :
    (Tree.activeReturns life combinator state branches branch order outcome).Sound := by
  rcases treeSound with ⟨-, fits, active, sound⟩
  have active : state.states branch = .active := active
  have pending : life.resolved = false := by
    rw [Bool.eq_false_iff]
    intro resolved
    cases active.symm.trans (fits.resolved resolved branch)
  have undecided : state.decided combinator = false := by
    rw [Bool.eq_false_iff]
    exact fun decided => fits.decided decided branch active
  have bare := Tree.combines_update_rest branch bare
  have finished : outcome.final → _ := fun final =>
    Tree.Sound.finishBranch sound ((sound branch).1.resolved returned final)
  have results : ∀ other, state.results other →
      update state.states branch .done other = .done :=
    fun other result => done_of_update fun _ => fits.results other result
  have succeeded : ∀ other, update state.results branch true other →
      update state.states branch .done other = .done := by
    intro other result
    apply done_of_update
    intro different
    rw [update_of_ne different] at result
    exact fits.results other result
  rw [Tree.activeReturns.eq_def]
  split
  · refine ⟨answered_working _ _, fits, trivial, ?_⟩
    exact Tree.Sound.updateBranch sound (by simp [active]) (sound branch).1.rest
  · rw [returns_of_not_final _ rfl]
    refine ⟨by simp [Stage.Answered, Outcome.final], fits, trivial, ?_⟩
    exact Tree.Sound.updateBranch sound (by simp [active]) (sound branch).1.rest
  · exact .cancelRest (finished rfl) succeeded pending bare
  · refine ⟨answered_working _ _, ⟨?_, succeeded, ?_⟩, trivial, finished rfl⟩
    · intro decided other
      have noException : state.exception = false := by
        simp only [Branches.decided, Bool.or_eq_false_iff] at undecided
        exact undecided.1
      simp only [Branches.decided, noException, Bool.false_or, decide_eq_true_eq] at decided
      simp [succeeded other (decided other)]
    · intro resolved
      cases pending.symm.trans resolved
  all_goals
    refine .cancelRest (finished ?_) results pending bare
    cases outcome <;> simp_all [Outcome.final]

theorem Tree.Sound.drainingReturns
    (treeSound : (Tree.combined n (.working (.draining any branch order)) life combinator state
      branches).Sound) (returned : (branches branch).outcome? = some outcome) :
    (Tree.drainingReturns life combinator state branches any branch order outcome).Sound := by
  rcases treeSound with ⟨-, fits, ⟨decided, draining, left⟩, sound⟩
  simp only [Tree.drainingReturns]
  split
  · have finished := Tree.Sound.finishBranch sound ((sound branch).1.resolved returned rfl)
    refine ⟨answered_working _ _, ⟨?_, ?_, ?_⟩, ⟨decided, ?_⟩, finished⟩
    · intro _ other active
      exact fits.decided decided other (state_of_update active nofun).2
    · exact fun other result => done_of_update fun _ => fits.results other result
    · exact fun resolved other => done_of_update fun _ => fits.resolved resolved other
    · intro undecided other stillDraining
      have before := state_of_update stillDraining nofun
      exact (left undecided other before.2).resolve_left before.1
  · rw [returns_of_not_final _ rfl]
    refine ⟨by simp [Stage.Answered, Outcome.final], fits, trivial, ?_⟩
    exact Tree.Sound.updateBranch sound (by simp [draining]) (sound branch).1.rest
  · refine ⟨answered_working _ _, fits, ⟨decided, nofun⟩, ?_⟩
    exact Tree.Sound.updateBranch sound (by simp [draining]) (sound branch).1.rest

end Branches

theorem Acts.drained (acts : Acts move tree ctx tree' ctx')
    (fresh : ∀ future, move = .await future → future.Sound) (sheltered : tree.sheltered)
    (drained : Drained tree ctx) : Drained tree' ctx' := by
  cases acts with
  | answer | pollEmpty => exact ⟨answered_returned _ _, drained.destroyed⟩
  | consume taken =>
    exact .same drained.sound drained.destroyed (Context.destroyed_of_consumed taken)
  | yield => exact ⟨drained.sound, drained.destroyed⟩
  | pollBody => exact ⟨drained.sound.pollBody, drained.destroyed⟩
  | stepBody stepped => exact drained.stepBody fresh stepped
  | pollAwaiting is => exact drained.pollAwaiting is (Tree.sheltered_awaiting sheltered).1
  | awaitedReturns returned is =>
    exact drained.awaitedReturns returned (Tree.sheltered_awaiting sheltered).2 is
  | goCombined pass place stepped => exact drained.goCombined place stepped
  | activeReturns returned =>
    have bare := fun branch => (Tree.sheltered_combined sheltered branch).1
    exact ⟨drained.sound.activeReturns returned bare, drained.destroyed⟩
  | drainingReturns returned => exact ⟨drained.sound.drainingReturns returned, drained.destroyed⟩
  | pollWrapped =>
    rcases drained with ⟨⟨-, known, resolved, sound⟩, destroyed⟩
    refine ⟨⟨answered_working _ _, known, ?_, sound.call⟩, destroyed⟩
    rw [Tree.resolved_call]
    exact resolved
  | innerReturns returned is => exact drained.innerReturns returned is

theorem Steps.drained (steps : Steps move tree ctx tree' ctx')
    (fresh : ∀ future, move = .await future → future.Sound) (sheltered : tree.sheltered)
    (drained : Drained tree ctx) : Drained tree' ctx' := by
  induction steps with
  | acts acts => exact acts.drained fresh sheltered drained
  | awaited _ _ induction =>
    rcases drained with ⟨⟨answered, coro, pending, sound⟩, destroyed⟩
    have next := induction (Tree.sheltered_awaiting sheltered).2 ⟨sound, destroyed⟩
    exact ⟨⟨answered, coro, pending, next.sound⟩, next.destroyed⟩
  | branch polls _ _ induction =>
    rcases drained with ⟨⟨answered, fits, place, sound⟩, destroyed⟩
    have next := induction (Tree.sheltered_combined sheltered _).2 ⟨(sound _).1, destroyed⟩
    refine ⟨⟨answered, fits, place, ?_⟩, next.destroyed⟩
    refine Tree.Sound.updateBranch sound ?_ next.sound
    rcases polls with ⟨order, rfl⟩ | ⟨any, order, rfl⟩
    · have active : _ = BranchState.active := place
      simp [active]
    · simp [place.2.1]
  | inner _ steps induction =>
    rcases drained with ⟨⟨answered, known, resolved, sound⟩, destroyed⟩
    have next := induction (Tree.sheltered_wrapped sheltered) ⟨sound, destroyed⟩
    refine ⟨⟨answered, known, ?_, next.sound⟩, next.destroyed⟩
    intro isResolved
    exact ⟨(resolved isResolved).1, steps.resolved (resolved isResolved).2⟩

/-! ## Every run of a task -/

def awaitsConstructed (_ : Task) : TaskMove → Prop
  | .run (.await future) => future.constructed
  | _ => True

instance (task : Task) : DecidablePred (awaitsConstructed task)
  | .run (.await future) => inferInstanceAs (Decidable (future.constructed = true))
  | .run .go | .run (.answer _) | .run .consume | .run .yield | .run (.finish _)
  | .run .yieldItem | .run (.scope _) | .poll _ | .returns | .cancel => instDecidableTrue

/-- Besides, every future with a `cancel()` has its place where it is drained. -/
def awaitsSheltered (task : Task) (move : TaskMove) : Prop :=
  awaitsConstructed task move ∧ task.root.sheltered

instance (task : Task) : DecidablePred (awaitsSheltered task) :=
  fun move => inferInstanceAs (Decidable (awaitsConstructed task move ∧ task.root.sheltered))

theorem drained_of_reaches (constructed : root.constructed)
    (reached : (taskMachine root).Reaches awaitsSheltered task) : Drained task.root task.ctx := by
  refine reached.invariant (fun task => Drained task.root task.ctx) ?_ ?_
  · intro task move next drained admitted stepped
    cases move with
    | poll budget =>
      rcases of_guard stepped with ⟨-, rfl⟩
      exact ⟨drained.sound.call, drained.destroyed⟩
    | run move =>
      rcases Option.map_eq_some_iff.mp stepped with ⟨⟨root, ctx⟩, found, rfl⟩
      refine (steps_of_step found).drained ?_ admitted.2 drained
      rintro future rfl
      exact .of_constructed admitted.1
    | returns =>
      simp only [taskMachine, Task.step] at stepped
      split at stepped
      · cases stepped
        exact ⟨drained.sound.rest, drained.destroyed⟩
      · cases stepped
      · cases stepped
      · rename_i outcome pending threw returned
        rcases of_unless stepped with ⟨_, rfl⟩
        have final : outcome.final := by cases outcome <;> simp_all [Outcome.final]
        have settled := drained.sound.settled_of_resolved
          (drained.sound.resolved returned final)
        exact .destroys drained.sound drained.destroyed settled
    | cancel =>
      rcases of_guard stepped with ⟨-, rfl⟩
      exact ⟨drained.sound.cancel, drained.destroyed⟩
  · exact ⟨.of_constructed constructed, nofun⟩

/-- Every future with a `cancel()` that has been polled has returned before it is destroyed,
if `select()` and `join()` around it are not given up and no exception goes through them. -/
theorem started_futures_drained {root : Tree} (constructed : root.constructed) {task : Task}
    (reached : (taskMachine root).Reaches awaitsSheltered task) :
    ∀ gone ∈ task.ctx.destroyed, gone.Settled :=
  (drained_of_reaches constructed reached).destroyed

/-- `select()` of a future with a `cancel()` and one without -/
abbrev selectTwo : Tree :=
  .combined 1 .idle {} .select {} fun branch => .leaf .idle {} (branch.val == 0)

/-- The first branch has a `cancel()`, has been polled and has not returned. -/
def Tree.leavesFirst : Tree → Bool
  | .combined n _ _ _ _ branches =>
    let first := branches ⟨0, n.succ_pos⟩
    first.cancellable && first.life.polled && !first.life.resolved
  | _ => false

/-- The second branch wins, and the first is cancelled and drained. Then a leaf throws, and the
body catches the exception. -/
theorem started_futures_drained_select :
    ∃ task, (taskMachine newCoro).Reaches awaitsSheltered task ∧
      task.finished ∧ task.ctx.destroyed.length = 3 ∧
      ∀ gone ∈ task.ctx.destroyed, gone.Settled := by
  refine exists_of_exec
    [.poll 9, .run .go, .run (.await selectTwo), .run .go, .run .go, .run (.answer .pending),
      .run .go, .run .go, .run (.answer .ready), .run .go, .run .go, .run .go,
      .run (.answer .dropped), .run .go, .run .go, .run .go, .run .go,
      .run (.await (.leaf .idle {} false)), .run (.answer .threw), .run .go,
      .run (.finish false), .run (.scope false), .returns]
    (by decide +kernel) fun reached => ⟨?_, ?_, started_futures_drained rfl reached⟩
  all_goals decide +kernel

/-- A coroutine is cancelled while it waits for a `select()`, and destroys it with a branch
that has been polled and neither cancelled nor drained. -/
theorem cancelled_select_not_drained :
    ¬∀ (root : Tree) (task : Task), root.constructed →
      (taskMachine root).Reaches awaitsConstructed task →
      ∀ gone ∈ task.ctx.destroyed, gone.Settled := by
  intro always
  obtain ⟨task, reached, found⟩ : ∃ task, (taskMachine newCoro).Reaches awaitsConstructed task ∧
      task.ctx.destroyed.any Tree.leavesFirst :=
    exists_of_exec
      [.poll 9, .run .go, .run (.await selectTwo), .run .go, .run .go, .run (.answer .pending),
        .run .go, .run .go, .run (.answer .pending), .run .go, .run .go, .run .go, .returns,
        .cancel, .poll 9, .run .go] (by decide +kernel) fun _ => by decide +kernel
  rcases List.any_eq_true.mp found with ⟨gone, member, left⟩
  have settled := always _ task rfl reached gone member
  cases gone with
  | combined n stage life combinator state branches =>
    simp only [Tree.leavesFirst, Bool.and_eq_true, Bool.not_eq_true'] at left
    have resolved := settled (branches 0) (.branch .self) left.1.1 left.1.2
    cases left.2.symm.trans resolved
  | _ => cases left

end CoroRuntime.FutureTree
