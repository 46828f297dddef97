import CoroRuntime.FutureTree.Tree

/-! # The budget of a task

Every first poll of an awaited future is paid for with a unit of the budget, by
`await_ready()` or by the poll of a future that was deferred.
-/

namespace CoroRuntime.FutureTree

open Foundation

variable {tree tree' : Tree} {ctx ctx' : Context}

/-! ## What is paid -/

structure Paid (ctx : Context) : Prop where
  spent : ctx.limit < unlimitedBudget → ctx.started + ctx.budget ≤ ctx.limit
  putOff : 0 < ctx.putOff → ctx.yielded
  woken : ctx.yielded → 0 < ctx.wakes

namespace Paid

theorem renew (ctx : Context) (budget : Nat) : Paid (ctx.renew budget) :=
  ⟨fun _ => Nat.le_of_eq (Nat.zero_add budget), nofun, nofun⟩

variable (paid : Paid ctx)

include paid

theorem destroys (tree : Tree) : Paid (ctx.destroys tree) :=
  ⟨paid.spent, paid.putOff, paid.woken⟩

theorem yields : Paid ctx.yieldToExecutor :=
  ⟨paid.spent, fun _ => rfl, fun _ => Nat.succ_pos _⟩

theorem putsOff (yielded : ctx.yielded) : Paid ctx.putsOff :=
  ⟨paid.spent, fun _ => yielded, paid.woken⟩

/-- A unit is taken, for a future that is polled for the first time or for something else. -/
theorem consume (taken : ctx.tryConsumeBudget = some ctx') (first : Bool) :
    Paid (ctx'.starts first) := by
  rw [Context.tryConsumeBudget] at taken
  split at taken
  · cases taken
  · rename_i left
    split at taken
    · cases taken
      refine ⟨?_, paid.putOff, paid.woken⟩
      intro limited
      have spent := paid.spent limited
      have one := first.toNat_le
      simp only [Context.starts]
      omega
    · rename_i unlimited
      cases taken
      refine ⟨?_, paid.putOff, paid.woken⟩
      intro limited
      have spent := paid.spent limited
      have whole := not_not.mp unlimited
      simp only [Context.starts] at limited
      omega

theorem repolls : Paid (ctx.starts false) :=
  ⟨paid.spent, paid.putOff, paid.woken⟩

theorem skips (spent : ctx.yieldIfBudgetSpent = some ctx') : Paid ctx'.putsOff := by
  rw [Context.yieldIfBudgetSpent] at spent
  split at spent
  · cases spent
  · split at spent
    · rename_i yielded
      cases spent
      exact paid.putsOff yielded
    · cases spent
      exact paid.yields.putsOff rfl

end Paid

/-! ## Deferred awaits -/

/-- Every awaitable in the tree is deferred until it has polled its future. -/
def Tree.Charged : Tree → Prop
  | .leaf .. | .body .. | .empty .. => True
  | .awaiting _ _ _ awaitable awaited =>
    (awaitable.deferred ↔ awaitable.polls = 0) ∧ awaited.Charged
  | .combined _ _ _ _ _ branches => ∀ branch, (branches branch).Charged
  | .wrapped _ _ _ inner => inner.Charged

namespace Tree

@[simp] theorem charged_call : tree.call.Charged ↔ tree.Charged := by
  cases tree <;> rfl

@[simp] theorem charged_rest : tree.rest.Charged ↔ tree.Charged := by
  cases tree <;> rfl

@[simp] theorem charged_cancel : tree.cancel.Charged ↔ tree.Charged := by
  induction tree with
  | wrapped _ _ _ _ induction => exact induction
  | _ => rfl

theorem charged_of_atRest (rests : tree.atRest) : tree.Charged := by
  induction tree with
  | leaf | body | empty => trivial
  | awaiting _ _ _ awaitable _ induction =>
    simp only [atRest, Bool.and_eq_true, beq_iff_eq] at rests
    refine ⟨?_, induction rests.2⟩
    rw [rests.1.2, decide_eq_true_iff]
  | combined _ _ _ _ _ _ induction =>
    simp only [atRest, Bool.and_eq_true, decide_eq_true_eq] at rests
    exact fun branch => induction branch (rests.2 branch)
  | wrapped _ _ _ _ induction =>
    simp only [atRest, Bool.and_eq_true] at rests
    exact induction rests.2

variable {n : Nat} {branches : Fin n → Tree}

theorem charged_update (charged : ∀ branch, (branches branch).Charged) (changed : tree.Charged)
    (other : Fin n) : (Function.update branches branch tree other).Charged := by
  by_cases same : other = branch
  · rw [same, Function.update_self]
    exact changed
  · rw [Function.update_of_ne same]
    exact charged other

theorem charged_rested (charged : ∀ branch, (branches branch).Charged) (branch other : Fin n) :
    (Function.update branches branch (branches branch).rest other).Charged :=
  charged_update charged (charged_rest.mpr (charged branch)) other

end Tree

structure Accounted (tree : Tree) (ctx : Context) : Prop where
  charged : tree.Charged
  paid : Paid ctx

theorem Accounted.pollAwaited (deferred : awaitable.deferred ↔ awaitable.polls = 0)
    (charged : awaited.Charged) (paid : Paid ctx)
    (is : Tree.pollAwaited work life kind awaitable awaited ctx = (tree, ctx')) :
    Accounted tree ctx' := by
  have polled : ∀ polls : Nat, (false = true) ↔ polls + 1 = 0 := by simp
  simp only [Tree.pollAwaited] at is
  split at is
  · split at is
    · cases is
      exact ⟨⟨deferred, charged⟩, paid.yields.putsOff rfl⟩
    · rename_i taken
      cases is
      exact ⟨⟨polled _, Tree.charged_call.mpr charged⟩, paid.consume taken _⟩
  · rename_i before
    cases is
    refine ⟨⟨polled _, Tree.charged_call.mpr charged⟩, ?_⟩
    rw [decide_eq_false (mt deferred.mpr before)]
    exact paid.repolls

theorem Tree.charged_cancelRest {n : Nat} {life : Life} {state : Branches (n + 1)}
    {branches : Fin (n + 1) → Tree} {order : List (Fin (n + 1))}
    (charged : ∀ branch, (branches branch).Charged) :
    (Tree.cancelRest life combinator state branches order).Charged := by
  intro branch
  rw [Branches.cancelledBranches]
  split
  · exact Tree.charged_cancel.mpr (charged branch)
  · exact charged branch

theorem Acts.accounted (acts : Acts move tree ctx tree' ctx') (accounted : Accounted tree ctx) :
    Accounted tree' ctx' := by
  rcases accounted with ⟨charged, paid⟩
  cases acts with
  | answer => exact ⟨trivial, paid⟩
  | consume taken => exact ⟨trivial, by simpa [Context.starts] using paid.consume taken false⟩
  | yield => exact ⟨trivial, paid.yields⟩
  | pollBody =>
    refine ⟨?_, paid⟩
    rw [Tree.pollBody.eq_def]
    repeat' split
    all_goals trivial
  | stepBody stepped =>
    cases move with
    | await future =>
      simp only [Tree.stepBody] at stepped
      split at stepped
      · split at stepped
        · rename_i rests
          have charged := Tree.charged_of_atRest rests
          rw [Option.some.injEq, Tree.awaitReady] at stepped
          split at stepped
          · cases stepped
            exact ⟨⟨by simp, charged⟩, paid.yields.putsOff rfl⟩
          · rename_i taken
            cases stepped
            exact ⟨⟨by simp, Tree.charged_call.mpr charged⟩, paid.consume taken true⟩
        · cases stepped
      · cases stepped
    | scope waits =>
      simp only [Tree.stepBody, Tree.closeBody] at stepped
      repeat' split at stepped
      all_goals cases stepped
      all_goals exact ⟨trivial, paid⟩
    | _ =>
      simp only [Tree.stepBody] at stepped
      repeat' split at stepped
      all_goals cases stepped
      all_goals exact ⟨trivial, paid⟩
  | pollAwaiting is =>
    rcases charged with ⟨deferred, charged⟩
    rw [Tree.pollAwaiting] at is
    split at is
    · split at is
      · exact .pollAwaited deferred charged paid is
      · split at is
        · refine .pollAwaited ?_ (Tree.charged_cancel.mpr charged) paid is
          exact deferred
        · cases is
          exact ⟨trivial, paid.destroys _⟩
    · exact .pollAwaited deferred charged paid is
  | awaitedReturns returned is =>
    rw [Tree.awaitedReturns.eq_def] at is
    split at is
    · cases is
      exact ⟨⟨charged.1, Tree.charged_rest.mpr charged.2⟩, paid⟩
    all_goals
      cases is
      exact ⟨trivial, paid.destroys _⟩
  | goCombined pass place stepped =>
    rw [Tree.goCombined.eq_def] at stepped
    repeat' split at stepped
    all_goals cases stepped
    all_goals first
      | exact ⟨charged, paid⟩
      | exact ⟨charged, paid.skips (by assumption)⟩
      | exact ⟨Tree.charged_update charged (Tree.charged_call.mpr (charged _)), paid⟩
  | activeReturns returned =>
    have rested := Tree.charged_rested charged
    refine ⟨?_, paid⟩
    rw [Tree.activeReturns.eq_def]
    split
    all_goals first
      | exact Tree.charged_cancelRest (rested _)
      | exact rested _
  | drainingReturns returned =>
    refine ⟨?_, paid⟩
    simp only [Tree.drainingReturns]
    split <;> exact Tree.charged_rested charged _
  | pollWrapped => exact ⟨Tree.charged_call.mpr charged, paid⟩
  | innerReturns returned is =>
    rw [Tree.innerReturns.eq_def] at is
    split at is
    all_goals cases is
    all_goals first
      | exact ⟨trivial, paid.destroys _⟩
      | exact ⟨Tree.charged_rest.mpr charged, paid⟩
  | pollEmpty => exact ⟨trivial, paid⟩

theorem Steps.accounted (steps : Steps move tree ctx tree' ctx') (accounted : Accounted tree ctx) :
    Accounted tree' ctx' := by
  induction steps with
  | acts acts => exact acts.accounted accounted
  | awaited _ _ induction =>
    have next := induction ⟨accounted.charged.2, accounted.paid⟩
    exact ⟨⟨accounted.charged.1, next.charged⟩, next.paid⟩
  | branch _ _ _ induction =>
    have next := induction ⟨accounted.charged _, accounted.paid⟩
    exact ⟨Tree.charged_update accounted.charged next.charged, next.paid⟩
  | inner _ _ induction =>
    have next := induction ⟨accounted.charged, accounted.paid⟩
    exact ⟨next.charged, next.paid⟩

theorem Below.charged (below : Below part tree) (charged : tree.Charged) : part.Charged := by
  induction below with
  | self => exact charged
  | awaited _ induction => exact induction charged.2
  | branch _ induction => exact induction (charged _)
  | inner _ induction => exact induction charged

/-! ## Every poll of a task -/

theorem accounted_of_reaches (rests : root.atRest)
    (reached : (taskMachine root).Reaches anyMove task) : Accounted task.root task.ctx := by
  refine reached.invariant (fun task => Accounted task.root task.ctx) ?_ ?_
  · intro task move next accounted _ stepped
    cases move with
    | poll budget =>
      rcases of_guard stepped with ⟨-, rfl⟩
      exact ⟨Tree.charged_call.mpr accounted.charged, .renew _ _⟩
    | run move =>
      rcases Option.map_eq_some_iff.mp stepped with ⟨⟨root, ctx⟩, found, rfl⟩
      exact (steps_of_step found).accounted accounted
    | returns =>
      simp only [taskMachine, Task.step] at stepped
      repeat' split at stepped
      all_goals cases stepped
      · exact ⟨Tree.charged_rest.mpr accounted.charged, accounted.paid⟩
      · exact ⟨accounted.charged, accounted.paid.destroys _⟩
    | cancel =>
      rcases of_guard stepped with ⟨-, rfl⟩
      exact ⟨Tree.charged_cancel.mpr accounted.charged, accounted.paid⟩
  · exact ⟨Tree.charged_of_atRest rests, ⟨fun _ => Nat.le_refl 0, nofun, nofun⟩⟩

structure BudgetKept (task : Task) : Prop where
  started : task.ctx.limit < unlimitedBudget → task.ctx.started ≤ task.ctx.limit
  /-- A coroutine that is polled polls a future again that it has polled, whatever the
  budget, unless the coroutine is cancelled and the future has no `cancel()`. -/
  repolled : ∀ life kind awaitable awaited,
    Below (.awaiting .called life kind awaitable awaited) task.root → 0 < awaitable.polls →
    (life.cancelled → awaitable.cancelDraining ∨ awaited.cancellable) →
    ∀ ctx, ∃ work awaitable' awaited' ctx',
      (Tree.awaiting .called life kind awaitable awaited).step ctx .go =
        some (.awaiting (.working work) life kind awaitable' (Tree.call awaited'), ctx') ∧
      (awaited' = awaited ∨ awaited' = awaited.cancel)
  /-- Otherwise the future is destroyed with the frame. -/
  destroyed : ∀ life kind awaitable awaited,
    Below (.awaiting .called life kind awaitable awaited) task.root → life.cancelled →
    awaitable.cancelDraining = false → awaited.cancellable = false →
    ∀ ctx, (Tree.awaiting .called life kind awaitable awaited).step ctx .go =
      some (.body (.working (.closing .dropped)) life kind .destroyed, ctx.destroys awaited)
  /-- The task has woken itself if an await or a branch was put off. -/
  woken : 0 < task.ctx.putOff → task.ctx.yielded ∧ 0 < task.ctx.wakes
  deferred : ∀ stage life kind awaitable awaited,
    Below (.awaiting stage life kind awaitable awaited) task.root → awaitable.deferred →
    awaitable.polls = 0

theorem pollAwaited_of_polled (ctx : Context) (work : AwaitWork) (life : Life) (kind : Kind)
    (awaited : Tree) (polled : awaitable.deferred = false) :
    ∃ awaitable' ctx', Tree.pollAwaited work life kind awaitable awaited ctx =
      (.awaiting (.working work) life kind awaitable' awaited.call, ctx') := by
  rw [Tree.pollAwaited, if_neg (by simp [polled])]
  exact ⟨_, _, rfl⟩

theorem task_budget_kept {root : Tree} (rests : root.atRest) {task : Task}
    (reached : (taskMachine root).Reaches anyMove task) : BudgetKept task := by
  rcases accounted_of_reaches rests reached with ⟨charged, paid⟩
  constructor
  · intro limited
    exact Nat.le_trans (Nat.le_add_right _ _) (paid.spent limited)
  · intro life kind awaitable awaited below polled drains ctx
    have notDeferred : awaitable.deferred = false := by
      rw [Bool.eq_false_iff]
      exact mt (below.charged charged).1.mp (Nat.pos_iff_ne_zero.mp polled)
    simp only [Tree.step, Tree.pollAwaiting]
    by_cases cancelled : life.cancelled
    · rw [if_pos cancelled]
      by_cases draining : awaitable.cancelDraining
      · rw [if_pos draining]
        rcases pollAwaited_of_polled ctx .drain life kind awaited notDeferred with ⟨_, _, is⟩
        exact ⟨_, _, _, _, congrArg some is, .inl rfl⟩
      · have cancellable := (drains cancelled).resolve_left draining
        rw [if_neg draining, if_pos cancellable]
        have draining : ({ awaitable with cancelDraining := true } : Awaitable).deferred = false :=
          notDeferred
        rcases pollAwaited_of_polled ctx .drain life kind awaited.cancel draining with ⟨_, _, is⟩
        exact ⟨_, _, _, _, congrArg some is, .inr rfl⟩
    · rw [if_neg cancelled]
      rcases pollAwaited_of_polled ctx .again life kind awaited notDeferred with ⟨_, _, is⟩
      exact ⟨_, _, _, _, congrArg some is, .inl rfl⟩
  · intro life kind awaitable awaited _ cancelled draining leaf ctx
    simp [Tree.step, Tree.pollAwaiting, cancelled, draining, leaf]
  · intro putOff
    have yielded := paid.putOff putOff
    exact ⟨yielded, paid.woken yielded⟩
  · intro stage life kind awaitable awaited below deferred
    exact (below.charged charged).1.mp deferred

/-- With a budget of one, the first of two awaits is made and the second is deferred. -/
theorem task_budget_kept_deferred :
    ∃ task, (taskMachine newCoro).Reaches anyMove task ∧
      task.ctx.limit = 1 ∧ task.ctx.started = 1 ∧ task.ctx.putOff = 1 ∧ BudgetKept task := by
  refine exists_of_exec
    [.poll 1, .run .go, .run (.await (.leaf .idle {} false)), .run (.answer .ready), .run .go,
      .run (.await (.leaf .idle {} false)), .returns]
    (by decide +kernel) fun reached => ⟨?_, ?_, ?_, task_budget_kept rfl reached⟩
  all_goals decide +kernel

/-- With `kUnlimitedBudget` a body can pass any number of awaits in one poll. -/
theorem unlimited_starts (count : Nat) :
    ∃ ctx, (taskMachine newCoro).Reaches anyMove
        ⟨.body (.working .running) { polled := true } .coro .live, ctx, false⟩ ∧
      ctx.budget = unlimitedBudget ∧ ctx.limit = unlimitedBudget ∧ ctx.started = count := by
  induction count with
  | zero =>
    refine ⟨{ budget := unlimitedBudget, limit := unlimitedBudget }, ?_, rfl, rfl, rfl⟩
    exact ⟨[.poll unlimitedBudget, .run .go], .cons trivial rfl (.cons trivial rfl (.nil _))⟩
  | succ count induction =>
    rcases induction with ⟨ctx, reached, budget, limit, started⟩
    have taken : ctx.tryConsumeBudget = some ctx := by
      simp [Context.tryConsumeBudget, budget, unlimitedBudget]
    have awaits : (taskMachine newCoro).step
        ⟨.body (.working .running) { polled := true } .coro .live, ctx, false⟩
        (.run (.await (.leaf .idle {} false))) =
        some ⟨.awaiting (.working .first) { polled := true } .coro ⟨false, false, 1⟩
          (.leaf .called { polled := true } false), ctx.starts true, false⟩ := by
      simp only [taskMachine, Task.step, Tree.step, Tree.stepBody, Tree.awaitReady, taken]
      rfl
    have answers : (taskMachine newCoro).step
        ⟨.awaiting (.working .first) { polled := true } .coro ⟨false, false, 1⟩
          (.leaf .called { polled := true } false), ctx.starts true, false⟩
        (.run (.answer .ready)) =
        some ⟨.awaiting (.working .first) { polled := true } .coro ⟨false, false, 1⟩
          (.leaf (.returned .ready) { polled := true, resolved := true } false),
          ctx.starts true, false⟩ := rfl
    have resumes : (taskMachine newCoro).step
        ⟨.awaiting (.working .first) { polled := true } .coro ⟨false, false, 1⟩
          (.leaf (.returned .ready) { polled := true, resolved := true } false),
          ctx.starts true, false⟩ (.run .go) =
        some ⟨.body (.working .running) { polled := true } .coro .live,
          (ctx.starts true).destroys
            (.leaf (.returned .ready) { polled := true, resolved := true } false), false⟩ := rfl
    refine ⟨_, ((reached.next trivial awaits).next trivial answers).next trivial resumes,
      budget, limit, ?_⟩
    exact congrArg (· + 1) started

/-- What the budget does not bound: the awaits of a poll with `kUnlimitedBudget`. And what is
not polled again: the leaf that a cancelled coroutine waits for, which is destroyed. -/
theorem budget_exceptions :
    (∃ task, (taskMachine newCoro).Reaches anyMove task ∧
      1 ≤ task.ctx.limit ∧ task.ctx.limit < task.ctx.started) ∧
    (∃ task next, (taskMachine newCoro).Reaches anyMove task ∧
      task.root = .awaiting .called ⟨true, false, true⟩ .coro ⟨false, false, 1⟩
        (.leaf .idle ⟨true, false, false⟩ false) ∧
      task.step (.run .go) = some next ∧
      next.root = .body (.working (.closing .dropped)) ⟨true, false, true⟩ .coro .destroyed) := by
  constructor
  · rcases unlimited_starts (unlimitedBudget + 1) with ⟨ctx, reached, -, limit, started⟩
    refine ⟨_, reached, ?_, ?_⟩
    · rw [limit]
      decide
    · rw [limit, started]
      exact Nat.lt_succ_self _
  · let leaf : Tree := .leaf .idle ⟨true, false, false⟩ false
    refine ⟨⟨.awaiting .called ⟨true, false, true⟩ .coro ⟨false, false, 1⟩ leaf,
        { budget := 1, limit := 1 }, false⟩,
      ⟨.body (.working (.closing .dropped)) ⟨true, false, true⟩ .coro .destroyed,
        { budget := 1, limit := 1, destroyed := [leaf] }, false⟩,
      ⟨[.poll 1, .run .go, .run (.await (.leaf .idle {} false)), .run (.answer .pending),
        .run .go, .returns, .cancel, .poll 1], ?_⟩, rfl, rfl, rfl⟩
    iterate 8 refine .cons trivial rfl ?_
    exact .nil _

end CoroRuntime.FutureTree
