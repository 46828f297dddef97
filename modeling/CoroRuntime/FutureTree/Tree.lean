import CoroRuntime.Combinators.Branches

/-! # A task's tree of futures

The future that a task runs, with everything below it: coroutines and streams with the
future that they are suspended at, `select()` and `join()` with their branches, `when()` and
`co_invoke()`. A poll of the task goes down this tree in small moves, each made by the
innermost future that is being polled. What the body of a coroutine does next and what a
leaf answers is up to the run.
-/

namespace CoroRuntime.FutureTree

open Foundation
open Function (update)
open Combinators (BranchState roundRobin)

/-- What comes of a `poll()`: a result, or an exception. -/
inductive Outcome
  | pending
  | ready
  | error
  | dropped
  | threw
  deriving DecidableEq, Repr

def Outcome.final : Outcome → Bool
  | .pending | .threw => false
  | .ready | .error | .dropped => true

inductive Stage (Work : Type)
  | idle
  | called
  | working (work : Work)
  | returned (outcome : Outcome)
  deriving DecidableEq, Repr

structure Life where
  /-- History: it has been polled, and it has returned something else than Pending. -/
  polled : Bool := false
  resolved : Bool := false
  cancelled : Bool := false
  deriving DecidableEq, Repr

def Life.returns (life : Life) (outcome : Outcome) : Life :=
  { life with resolved := life.resolved || outcome.final }

inductive Kind
  | coro
  | stream
  deriving DecidableEq, Repr

inductive Frame
  | live
  | done (failed : Bool)
  /-- `m_handle` is null. -/
  | destroyed
  deriving DecidableEq, Repr

def Frame.teardown : Frame → Frame
  | .live | .destroyed => .destroyed
  | .done failed => .done failed

inductive BodyWork
  /-- In the body, between two suspensions -/
  | running
  /-- before the children in the scope are waited for, and with what is returned then -/
  | closing (outcome : Outcome)
  deriving DecidableEq, Repr

inductive AwaitWork
  /-- `await_ready()` -/
  | first
  /-- the poll before the coroutine is resumed -/
  | again
  | drain
  deriving DecidableEq, Repr

/-- A `FutureAwaitable` that the coroutine is suspended at, or about to be. -/
structure Awaitable where
  deferred : Bool
  /-- `m_cancel_draining` of the coroutine -/
  cancelDraining : Bool := false
  /-- History: the polls of the future through this awaitable. -/
  polls : Nat
  deriving DecidableEq, Repr

inductive Combinator
  | select
  | join
  deriving DecidableEq, Repr

inductive Pass (n : Nat)
  | active (order : List (Fin n))
  /-- in the poll of an active branch, with those that come after it -/
  | polling (branch : Fin n) (order : List (Fin n))
  | drain (anyStillDraining : Bool) (order : List (Fin n))
  | draining (anyStillDraining : Bool) (branch : Fin n) (order : List (Fin n))
  deriving DecidableEq, Repr

structure Branches (n : Nat) where
  states : Fin n → BranchState := fun _ => .active
  /-- `m_results` of a `join()`. In a `select()` the one branch that has won. -/
  results : Fin n → Bool := fun _ => false
  exception : Bool := false
  pollStart : Nat := 0

/-- The condition on which the combined future only drains what is left. -/
def Branches.decided (combinator : Combinator) (state : Branches n) : Bool :=
  state.exception || match combinator with
    | .select => decide (∃ branch, state.results branch)
    | .join => decide (∀ branch, state.results branch)

inductive Wrapper
  | when
  | coInvoke
  | next
  deriving DecidableEq, Repr

inductive Tree
  | leaf (stage : Stage Empty) (life : Life) (cancellable : Bool)
  /-- a coroutine that is not suspended at a `co_await` -/
  | body (stage : Stage BodyWork) (life : Life) (kind : Kind) (frame : Frame)
  | awaiting (stage : Stage AwaitWork) (life : Life) (kind : Kind) (awaitable : Awaitable)
      (awaited : Tree)
  | combined (n : Nat) (stage : Stage (Pass (n + 1))) (life : Life) (combinator : Combinator)
      (state : Branches (n + 1)) (branches : Fin (n + 1) → Tree)
  | wrapped (stage : Stage Unit) (life : Life) (wrapper : Wrapper) (inner : Tree)
  /-- `when(false, ..)`, or a `co_invoke()` that has released its coroutine -/
  | empty (stage : Stage Empty) (life : Life) (wrapper : Wrapper) (cancellable : Bool)

namespace Tree

def life : Tree → Life
  | .leaf _ life _ | .body _ life _ _ | .awaiting _ life _ _ _ | .combined _ _ life _ _ _
  | .wrapped _ life _ _ | .empty _ life _ _ => life

/-- The type of the future has a `cancel()`. A `CoroStream` is not a future. -/
def cancellable : Tree → Bool
  | .leaf _ _ cancellable | .empty _ _ _ cancellable => cancellable
  | .body _ _ kind _ | .awaiting _ _ kind _ _ => kind = .coro
  | .combined .. => false
  | .wrapped _ _ .when inner => inner.cancellable
  | .wrapped _ _ .coInvoke _ => true
  | .wrapped _ _ .next _ => false

def call : Tree → Tree
  | .leaf _ life cancellable => .leaf .called { life with polled := true } cancellable
  | .body _ life kind frame => .body .called { life with polled := true } kind frame
  | .awaiting _ life kind awaitable awaited =>
    .awaiting .called { life with polled := true } kind awaitable awaited
  | .combined n _ life combinator state branches =>
    .combined n .called { life with polled := true } combinator state branches
  | .wrapped _ life wrapper inner => .wrapped .called { life with polled := true } wrapper inner
  | .empty _ life wrapper cancellable =>
    .empty .called { life with polled := true } wrapper cancellable

def rest : Tree → Tree
  | .leaf _ life cancellable => .leaf .idle life cancellable
  | .body _ life kind frame => .body .idle life kind frame
  | .awaiting _ life kind awaitable awaited => .awaiting .idle life kind awaitable awaited
  | .combined n _ life combinator state branches => .combined n .idle life combinator state branches
  | .wrapped _ life wrapper inner => .wrapped .idle life wrapper inner
  | .empty _ life wrapper cancellable => .empty .idle life wrapper cancellable

/-- `cancel()` of a future that has one. Those around another forward it. -/
def cancel : Tree → Tree
  | .leaf stage life cancellable => .leaf stage { life with cancelled := true } cancellable
  | .body stage life kind frame => .body stage { life with cancelled := true } kind frame
  | .awaiting stage life kind awaitable awaited =>
    .awaiting stage { life with cancelled := true } kind awaitable awaited
  | .combined n stage life combinator state branches =>
    .combined n stage life combinator state branches
  | .wrapped stage life wrapper inner =>
    .wrapped stage { life with cancelled := true } wrapper inner.cancel
  | .empty stage life wrapper cancellable =>
    .empty stage { life with cancelled := true } wrapper cancellable

end Tree

def Stage.outcome? {Work : Type} : Stage Work → Option Outcome
  | .returned outcome => some outcome
  | _ => none

def Tree.outcome? : Tree → Option Outcome
  | .leaf stage _ _ => stage.outcome?
  | .body stage _ _ _ => stage.outcome?
  | .awaiting stage _ _ _ _ => stage.outcome?
  | .combined _ stage _ _ _ _ => stage.outcome?
  | .wrapped stage _ _ _ => stage.outcome?
  | .empty stage _ _ _ => stage.outcome?

def Stage.isIdle {Work : Type} : Stage Work → Bool
  | .idle => true
  | _ => false

/-- The future and those below it are not being polled, and an awaitable has been polled
unless it was deferred: what a future can be like between two polls. -/
def Tree.atRest : Tree → Bool
  | .leaf stage _ _ => stage.isIdle
  | .body stage _ _ _ => stage.isIdle
  | .awaiting stage _ _ awaitable awaited =>
    stage.isIdle && (awaitable.deferred == decide (awaitable.polls = 0)) && awaited.atRest
  | .combined _ stage _ _ _ branches => stage.isIdle && decide (∀ branch, (branches branch).atRest)
  | .wrapped stage _ _ inner => stage.isIdle && inner.atRest
  | .empty stage _ _ _ => stage.isIdle

inductive Below (part : Tree) : Tree → Prop
  | self : Below part part
  | awaited {stage life kind awaitable awaited} (below : Below part awaited) :
      Below part (.awaiting stage life kind awaitable awaited)
  | branch {n stage life combinator branches} {state : Branches (n + 1)} {branch : Fin (n + 1)}
      (below : Below part (branches branch)) :
      Below part (.combined n stage life combinator state branches)
  | inner {stage life wrapper inner} (below : Below part inner) :
      Below part (.wrapped stage life wrapper inner)

/-! ## The context of a poll -/

def unlimitedBudget : Nat := 2 ^ 32 - 1

structure Context where
  budget : Nat
  yielded : Bool := false
  /-- History: the budget at the beginning, the futures that were polled for the first time
  by an awaitable, the awaits and branches that were put off, and the calls of the waker. -/
  limit : Nat
  started : Nat := 0
  putOff : Nat := 0
  wakes : Nat := 0
  /-- History of the task: the futures that were destroyed, as they were then. -/
  destroyed : List Tree := []

namespace Context

def tryConsumeBudget (ctx : Context) : Option Context :=
  if ctx.budget = 0 then none
  else if ctx.budget ≠ unlimitedBudget then some { ctx with budget := ctx.budget - 1 }
  else some ctx

def yieldToExecutor (ctx : Context) : Context :=
  { ctx with yielded := true, wakes := ctx.wakes + 1 }

/-- The context after a call that returned true. -/
def yieldIfBudgetSpent (ctx : Context) : Option Context :=
  if ctx.budget ≠ 0 then none
  else some (if ctx.yielded then ctx else ctx.yieldToExecutor)

def putsOff (ctx : Context) : Context := { ctx with putOff := ctx.putOff + 1 }

def starts (ctx : Context) (first : Bool) : Context :=
  { ctx with started := ctx.started + first.toNat }

def destroys (ctx : Context) (tree : Tree) : Context :=
  { ctx with destroyed := ctx.destroyed ++ [tree] }

def renew (ctx : Context) (budget : Nat) : Context :=
  { budget, limit := budget, destroyed := ctx.destroyed }

end Context

/-! ## One move -/

inductive Move
  /-- The code of the library goes on. -/
  | go
  -- a leaf
  | answer (outcome : Outcome)
  | consume
  | yield
  -- the body of a coroutine
  | await (future : Tree)
  | finish (failed : Bool)
  | yieldItem
  /-- Whether some child in the scope of the coroutine is still running. -/
  | scope (waits : Bool)

namespace Tree

/-- `Coro::poll` and `CoroStream::poll_next` of a coroutine that awaits nothing. -/
def pollBody (life : Life) (kind : Kind) (frame : Frame) : Tree :=
  if life.cancelled then .body (.working (.closing .dropped)) life kind frame.teardown
  else
    match frame, kind with
    | .destroyed, .coro => .body (.returned .pending) (life.returns .pending) kind .destroyed
    | .destroyed, .stream => .body (.returned .ready) (life.returns .ready) kind .destroyed
    | .done failed, _ =>
      .body (.working (.closing (if failed then .error else .ready))) life kind (.done failed)
    | .live, _ => .body (.working .running) life kind .live

def awaitReady (life : Life) (kind : Kind) (future : Tree) (ctx : Context) : Tree × Context :=
  match ctx.tryConsumeBudget with
  | none =>
    (.awaiting (.returned .pending) (life.returns .pending) kind ⟨true, false, 0⟩ future,
      ctx.yieldToExecutor.putsOff)
  | some ctx =>
    (.awaiting (.working .first) life kind ⟨false, false, 1⟩ future.call, ctx.starts true)

def pollAwaited (work : AwaitWork) (life : Life) (kind : Kind) (awaitable : Awaitable)
    (awaited : Tree) (ctx : Context) : Tree × Context :=
  let polled : Tree := .awaiting (.working work) life kind
    { awaitable with deferred := false, polls := awaitable.polls + 1 } awaited.call
  if awaitable.deferred then
    match ctx.tryConsumeBudget with
    | none =>
      (.awaiting (.returned .pending) (life.returns .pending) kind awaitable awaited,
        ctx.yieldToExecutor.putsOff)
    | some ctx => (polled, ctx.starts (awaitable.polls = 0))
  else (polled, ctx.starts (awaitable.polls = 0))

/-- `Coro::poll` of a coroutine that is suspended at a `co_await` -/
def pollAwaiting (life : Life) (kind : Kind) (awaitable : Awaitable) (awaited : Tree)
    (ctx : Context) : Tree × Context :=
  if life.cancelled then
    if awaitable.cancelDraining then pollAwaited .drain life kind awaitable awaited ctx
    else if awaited.cancellable then
      pollAwaited .drain life kind { awaitable with cancelDraining := true } awaited.cancel ctx
    else (.body (.working (.closing .dropped)) life kind .destroyed, ctx.destroys awaited)
  else pollAwaited .again life kind awaitable awaited ctx

/-- The awaited future returns to the coroutine, which destroys it when it goes on. An
exception is caught by the awaitable and thrown again in the body. -/
def awaitedReturns (work : AwaitWork) (life : Life) (kind : Kind) (awaitable : Awaitable)
    (awaited : Tree) (outcome : Outcome) (ctx : Context) : Tree × Context :=
  match outcome, work with
  | .pending, _ =>
    (.awaiting (.returned .pending) (life.returns .pending) kind awaitable awaited.rest, ctx)
  | _, .drain =>
    (.body (.working (.closing .dropped)) life kind .destroyed, ctx.destroys awaited)
  | _, .first | _, .again => (.body (.working .running) life kind .live, ctx.destroys awaited)

def closeBody (life : Life) (kind : Kind) (frame : Frame) (outcome : Outcome) (waits : Bool) :
    Tree :=
  if waits then .body (.returned .pending) (life.returns .pending) kind frame
  else
    match outcome, kind with
    | .dropped, _ | _, .stream => .body (.returned outcome) (life.returns outcome) kind frame
    | _, .coro => .body (.returned outcome) (life.returns outcome) kind .destroyed

def stepBody (work : BodyWork) (life : Life) (kind : Kind) (frame : Frame) (ctx : Context) :
    Move → Option (Tree × Context)
  | .await future =>
    match work with
    | .running => if future.atRest then some (awaitReady life kind future ctx) else none
    | .closing _ => none
  | .finish failed =>
    match work with
    | .running =>
      some (.body (.working (.closing (if failed then .error else .ready))) life kind
        (.done failed), ctx)
    | .closing _ => none
  | .yieldItem =>
    match work, kind with
    | .running, .stream => some (.body (.returned .ready) (life.returns .ready) kind frame, ctx)
    | _, _ => none
  | .scope waits =>
    match work with
    | .closing outcome => some (closeBody life kind frame outcome waits, ctx)
    | .running => none
  | .go | .answer _ | .consume | .yield => none

end Tree

/-! ## Combined futures -/

namespace Branches

variable {n : Nat} (state : Branches (n + 1)) (branches : Fin (n + 1) → Tree)

def cancelActive : Branches (n + 1) :=
  { state with
    states := fun branch =>
      if state.states branch = .active then
        if (branches branch).cancellable then .draining else .done
      else state.states branch }

def cancelledBranches (branch : Fin (n + 1)) : Tree :=
  if state.states branch = .active ∧ (branches branch).cancellable then (branches branch).cancel
  else branches branch

end Branches

namespace Tree

def cancelRest {n : Nat} (life : Life) (combinator : Combinator) (state : Branches (n + 1))
    (branches : Fin (n + 1) → Tree) (order : List (Fin (n + 1))) : Tree :=
  .combined n (.working (.active order)) life combinator (state.cancelActive branches)
    (state.cancelledBranches branches)

/-- `poll_active_one` after the poll of the branch. An exception of the branch is not caught. -/
def activeReturns {n : Nat} (life : Life) (combinator : Combinator) (state : Branches (n + 1))
    (branches : Fin (n + 1) → Tree) (branch : Fin (n + 1)) (order : List (Fin (n + 1)))
    (outcome : Outcome) : Tree :=
  let branches := update branches branch (branches branch).rest
  let resolved := { state with states := update state.states branch .done }
  let succeeded := { resolved with results := update state.results branch true }
  match outcome, combinator with
  | .pending, _ => .combined n (.working (.active order)) life combinator state branches
  | .threw, _ => .combined n (.returned .threw) (life.returns .threw) combinator state branches
  | .ready, .select => cancelRest life combinator succeeded branches []
  | .ready, .join => .combined n (.working (.active order)) life combinator succeeded branches
  | _, .select => cancelRest life combinator { resolved with exception := true } branches []
  | _, .join => cancelRest life combinator { resolved with exception := true } branches order

def drainingReturns {n : Nat} (life : Life) (combinator : Combinator) (state : Branches (n + 1))
    (branches : Fin (n + 1) → Tree) (any : Bool) (branch : Fin (n + 1))
    (order : List (Fin (n + 1))) (outcome : Outcome) : Tree :=
  let branches := update branches branch (branches branch).rest
  match outcome with
  | .dropped =>
    .combined n (.working (.drain any order)) life combinator
      { state with states := update state.states branch .done } branches
  | .threw => .combined n (.returned .threw) (life.returns .threw) combinator state branches
  | _ => .combined n (.working (.drain true order)) life combinator state branches

/-- A move of the combined future itself, when no branch is being polled. -/
def goCombined {n : Nat} (pass : Option (Pass (n + 1))) (life : Life) (combinator : Combinator)
    (state : Branches (n + 1)) (branches : Fin (n + 1) → Tree) (ctx : Context) :
    Option (Tree × Context) :=
  match pass with
  | none =>
    let pass : Pass (n + 1) :=
      if state.decided combinator then .drain false (List.finRange (n + 1))
      else .active (roundRobin (n + 1) state.pollStart)
    some (.combined n (.working pass) life combinator state branches, ctx)
  | some (.active []) =>
    let next := { state with pollStart := (state.pollStart + 1) % (n + 1) }
    if state.decided combinator then
      some (.combined n (.working (.drain false (List.finRange (n + 1)))) life combinator next
        branches, ctx)
    else
      some (.combined n (.returned .pending) (life.returns .pending) combinator next branches,
        ctx)
  | some (.active (branch :: order)) =>
    if state.states branch ≠ .active then
      some (.combined n (.working (.active order)) life combinator state branches, ctx)
    else
      match ctx.yieldIfBudgetSpent with
      | some ctx =>
        some (.combined n (.working (.active order)) life combinator state branches,
          ctx.putsOff)
      | none =>
        some (.combined n (.working (.polling branch order)) life combinator state
          (update branches branch (branches branch).call), ctx)
  | some (.drain any []) =>
    let outcome : Outcome := if any then .pending else if state.exception then .error else .ready
    some (.combined n (.returned outcome) (life.returns outcome) combinator state branches, ctx)
  | some (.drain any (branch :: order)) =>
    if state.states branch ≠ .draining then
      some (.combined n (.working (.drain any order)) life combinator state branches, ctx)
    else
      some (.combined n (.working (.draining any branch order)) life combinator state
        (update branches branch (branches branch).call), ctx)
  | some (.polling ..) | some (.draining ..) => none

/-- The inner future returns to a future around it. `co_invoke()` then releases it. -/
def innerReturns (life : Life) (wrapper : Wrapper) (inner : Tree) (outcome : Outcome)
    (ctx : Context) : Tree × Context :=
  match wrapper, outcome with
  | .coInvoke, .ready | .coInvoke, .error | .coInvoke, .dropped =>
    (.empty (.returned outcome) (life.returns outcome) wrapper true, ctx.destroys inner)
  | _, _ => (.wrapped (.returned outcome) (life.returns outcome) wrapper inner.rest, ctx)

def step : Tree → Context → Move → Option (Tree × Context)
  | .leaf .called life cancellable, ctx, .answer outcome =>
    some (.leaf (.returned outcome) (life.returns outcome) cancellable, ctx)
  | .leaf .called life cancellable, ctx, .consume =>
    ctx.tryConsumeBudget.map fun ctx => (.leaf .called life cancellable, ctx)
  | .leaf .called life cancellable, ctx, .yield =>
    some (.leaf .called life cancellable, ctx.yieldToExecutor)
  | .leaf .., _, _ => none
  | .body .called life kind frame, ctx, .go => some (pollBody life kind frame, ctx)
  | .body (.working work) life kind frame, ctx, move => stepBody work life kind frame ctx move
  | .body .., _, _ => none
  | .awaiting .called life kind awaitable awaited, ctx, .go =>
    some (pollAwaiting life kind awaitable awaited ctx)
  | .awaiting (.working work) life kind awaitable awaited, ctx, move =>
    match awaited.outcome?, move with
    | some outcome, .go => some (awaitedReturns work life kind awaitable awaited outcome ctx)
    | some _, _ => none
    | none, move =>
      (awaited.step ctx move).map fun (awaited, ctx) =>
        (.awaiting (.working work) life kind awaitable awaited, ctx)
  | .awaiting .., _, _ => none
  | .combined _ .called life combinator state branches, ctx, .go =>
    goCombined none life combinator state branches ctx
  | .combined n (.working (.polling branch order)) life combinator state branches, ctx, move =>
    match (branches branch).outcome?, move with
    | some outcome, .go =>
      some (activeReturns life combinator state branches branch order outcome, ctx)
    | some _, _ => none
    | none, move =>
      ((branches branch).step ctx move).map fun (tree, ctx) =>
        (.combined n (.working (.polling branch order)) life combinator state
          (update branches branch tree), ctx)
  | .combined n (.working (.draining any branch order)) life combinator state branches, ctx, move =>
    match (branches branch).outcome?, move with
    | some outcome, .go =>
      some (drainingReturns life combinator state branches any branch order outcome, ctx)
    | some _, _ => none
    | none, move =>
      ((branches branch).step ctx move).map fun (tree, ctx) =>
        (.combined n (.working (.draining any branch order)) life combinator state
          (update branches branch tree), ctx)
  | .combined _ (.working pass) life combinator state branches, ctx, .go =>
    goCombined (some pass) life combinator state branches ctx
  | .combined .., _, _ => none
  | .wrapped .called life wrapper inner, ctx, .go =>
    some (.wrapped (.working ()) life wrapper inner.call, ctx)
  | .wrapped (.working work) life wrapper inner, ctx, move =>
    match inner.outcome?, move with
    | some outcome, .go => some (innerReturns life wrapper inner outcome ctx)
    | some _, _ => none
    | none, move =>
      (inner.step ctx move).map fun (inner, ctx) =>
        (.wrapped (.working work) life wrapper inner, ctx)
  | .wrapped .., _, _ => none
  | .empty .called life .when cancellable, ctx, .go =>
    let outcome : Outcome := if life.cancelled then .dropped else .pending
    some (.empty (.returned outcome) (life.returns outcome) .when cancellable, ctx)
  | .empty .., _, _ => none

end Tree

/-! ## What a move can do -/

inductive Acts (move : Move) : Tree → Context → Tree → Context → Prop
  | answer {life cancellable ctx} (outcome : Outcome) :
      Acts move (.leaf .called life cancellable) ctx
        (.leaf (.returned outcome) (life.returns outcome) cancellable) ctx
  | consume {life cancellable ctx ctx'} (taken : ctx.tryConsumeBudget = some ctx') :
      Acts move (.leaf .called life cancellable) ctx (.leaf .called life cancellable) ctx'
  | yield {life cancellable ctx} :
      Acts move (.leaf .called life cancellable) ctx (.leaf .called life cancellable)
        ctx.yieldToExecutor
  | pollBody {life kind frame ctx} :
      Acts move (.body .called life kind frame) ctx (Tree.pollBody life kind frame) ctx
  | stepBody {work life kind frame ctx tree ctx'}
      (stepped : Tree.stepBody work life kind frame ctx move = some (tree, ctx')) :
      Acts move (.body (.working work) life kind frame) ctx tree ctx'
  | pollAwaiting {life kind awaitable awaited ctx tree ctx'}
      (is : Tree.pollAwaiting life kind awaitable awaited ctx = (tree, ctx')) :
      Acts move (.awaiting .called life kind awaitable awaited) ctx tree ctx'
  | awaitedReturns {work life kind awaitable awaited ctx outcome tree ctx'}
      (returned : awaited.outcome? = some outcome)
      (is : Tree.awaitedReturns work life kind awaitable awaited outcome ctx = (tree, ctx')) :
      Acts move (.awaiting (.working work) life kind awaitable awaited) ctx tree ctx'
  | goCombined {n life combinator branches ctx tree ctx'} {state : Branches (n + 1)}
      {stage : Stage (Pass (n + 1))} (pass : Option (Pass (n + 1)))
      (place : stage = pass.elim .called .working)
      (stepped : Tree.goCombined pass life combinator state branches ctx = some (tree, ctx')) :
      Acts move (.combined n stage life combinator state branches) ctx tree ctx'
  | activeReturns {n life combinator branches ctx outcome} {state : Branches (n + 1)}
      {branch : Fin (n + 1)} {order} (returned : (branches branch).outcome? = some outcome) :
      Acts move (.combined n (.working (.polling branch order)) life combinator state branches) ctx
        (Tree.activeReturns life combinator state branches branch order outcome) ctx
  | drainingReturns {n life combinator branches ctx any outcome} {state : Branches (n + 1)}
      {branch : Fin (n + 1)} {order} (returned : (branches branch).outcome? = some outcome) :
      Acts move (.combined n (.working (.draining any branch order)) life combinator state branches)
        ctx (Tree.drainingReturns life combinator state branches any branch order outcome) ctx
  | pollWrapped {life wrapper inner ctx} :
      Acts move (.wrapped .called life wrapper inner) ctx
        (.wrapped (.working ()) life wrapper inner.call) ctx
  | innerReturns {work life wrapper inner ctx outcome tree ctx'}
      (returned : inner.outcome? = some outcome)
      (is : Tree.innerReturns life wrapper inner outcome ctx = (tree, ctx')) :
      Acts move (.wrapped (.working work) life wrapper inner) ctx tree ctx'
  | pollEmpty {life cancellable ctx} (outcome : Outcome)
      (is : outcome = if life.cancelled then .dropped else .pending) :
      Acts move (.empty .called life .when cancellable) ctx
        (.empty (.returned outcome) (life.returns outcome) .when cancellable) ctx

inductive Steps (move : Move) : Tree → Context → Tree → Context → Prop
  | acts {tree ctx tree' ctx'} (acts : Acts move tree ctx tree' ctx') :
      Steps move tree ctx tree' ctx'
  | awaited {work life kind awaitable awaited ctx awaited' ctx'}
      (running : awaited.outcome? = none) (steps : Steps move awaited ctx awaited' ctx') :
      Steps move (.awaiting (.working work) life kind awaitable awaited) ctx
        (.awaiting (.working work) life kind awaitable awaited') ctx'
  | branch {n life combinator branches ctx tree' ctx'} {state : Branches (n + 1)}
      {branch : Fin (n + 1)} {pass : Pass (n + 1)}
      (polls : (∃ order, pass = .polling branch order) ∨
        ∃ any order, pass = .draining any branch order)
      (running : (branches branch).outcome? = none)
      (steps : Steps move (branches branch) ctx tree' ctx') :
      Steps move (.combined n (.working pass) life combinator state branches) ctx
        (.combined n (.working pass) life combinator state
          (update branches branch tree')) ctx'
  | inner {work life wrapper inner ctx inner' ctx'} (running : inner.outcome? = none)
      (steps : Steps move inner ctx inner' ctx') :
      Steps move (.wrapped (.working work) life wrapper inner) ctx
        (.wrapped (.working work) life wrapper inner') ctx'

theorem steps_of_step (stepped : tree.step ctx move = some (tree', ctx')) :
    Steps move tree ctx tree' ctx' := by
  fun_induction Tree.step tree ctx move generalizing tree' ctx' with
  | case1 =>
    cases stepped
    exact .acts (.answer _)
  | case2 =>
    rcases Option.map_eq_some_iff.mp stepped with ⟨taken, found, same⟩
    cases same
    exact .acts (.consume found)
  | case3 =>
    cases stepped
    exact .acts .yield
  | case5 =>
    cases stepped
    exact .acts .pollBody
  | case6 => exact .acts (.stepBody stepped)
  | case8 => exact .acts (.pollAwaiting (Option.some.inj stepped))
  | case9 _ _ _ _ _ _ _ returned =>
    exact .acts (.awaitedReturns returned (Option.some.inj stepped))
  | case11 _ _ _ _ _ _ _ running induction =>
    rcases Option.map_eq_some_iff.mp stepped with ⟨⟨part, _⟩, found, same⟩
    cases same
    exact .awaited running (induction found)
  | case13 => exact .acts (.goCombined none rfl stepped)
  | case14 _ _ _ _ _ _ _ _ _ returned =>
    cases stepped
    exact .acts (.activeReturns returned)
  | case16 _ _ _ _ _ _ _ _ _ running induction =>
    rcases Option.map_eq_some_iff.mp stepped with ⟨⟨part, _⟩, found, same⟩
    cases same
    exact .branch (.inl ⟨_, rfl⟩) running (induction found)
  | case17 _ _ _ _ _ _ _ _ _ _ returned =>
    cases stepped
    exact .acts (.drainingReturns returned)
  | case19 _ _ _ _ _ _ _ _ _ _ running induction =>
    rcases Option.map_eq_some_iff.mp stepped with ⟨⟨part, _⟩, found, same⟩
    cases same
    exact .branch (.inr ⟨_, _, rfl⟩) running (induction found)
  | case20 => exact .acts (.goCombined (some _) rfl stepped)
  | case22 =>
    cases stepped
    exact .acts .pollWrapped
  | case23 _ _ _ _ _ _ returned =>
    exact .acts (.innerReturns returned (Option.some.inj stepped))
  | case25 _ _ _ _ _ _ running induction =>
    rcases Option.map_eq_some_iff.mp stepped with ⟨⟨part, _⟩, found, same⟩
    cases same
    exact .inner running (induction found)
  | case27 =>
    cases stepped
    exact .acts (.pollEmpty _ rfl)
  | _ => cases stepped

/-! ## The task -/

abbrev newCoro : Tree := .body .idle {} .coro .live

structure Task where
  root : Tree
  ctx : Context
  finished : Bool

inductive TaskMove
  | poll (budget : Nat)
  | run (move : Move)
  /-- The poll of the root returns to the executor. -/
  | returns
  | cancel

def Task.step (task : Task) : TaskMove → Option Task
  | .poll budget =>
    if task.finished = false ∧ task.root.atRest then
      some { task with root := task.root.call, ctx := task.ctx.renew budget }
    else none
  | .run move =>
    (task.root.step task.ctx move).map fun (root, ctx) => { task with root, ctx }
  | .returns =>
    match task.root.outcome? with
    | some .pending => some { task with root := task.root.rest }
    -- an exception of the root leaves the executor, which has no handler either
    | some .threw | none => none
    | some _ =>
      if task.finished then none
      else some { task with finished := true, ctx := task.ctx.destroys task.root }
  | .cancel =>
    if task.finished = false ∧ task.root.atRest ∧ task.root.cancellable then
      some { task with root := task.root.cancel }
    else none

def taskMachine (root : Tree) : Machine Task TaskMove where
  initial := ⟨root, { budget := 0, limit := 0 }, false⟩
  step := Task.step

end CoroRuntime.FutureTree
