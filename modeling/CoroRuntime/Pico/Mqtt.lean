import CoroRuntime.Foundation.Execution
import CoroRuntime.Foundation.Updates

/-! # The MQTT client

`MqttClient` of `src/pico/mqtt.cpp` and the callbacks that lwIP makes for it, all on one thread.
lwIP keeps an address for each callback: that of the `LwipCallbackResult` in a coroutine's frame,
or that of an `MqttCtx`. Payloads are left out.
-/

namespace CoroRuntime.Mqtt

open Foundation
open Function (update update_self update_of_ne)

inductive Request
  | publish
  | subscribe (topic capacity : Nat)
  deriving DecidableEq, Repr

/-- A coroutine. `value` is what its `LwipCallbackResult` holds. -/
inductive Frame
  | unused
  /-- `connect()` waits for the address, if there is one. -/
  | resolving (value : Option Bool)
  | connecting (ctx : Nat)
  /-- `publish()` or `subscribe()` waits for the broker's answer. -/
  | requesting (request : Request) (ctx : Nat) (value : Option Bool)
  | returned
  | threw (error : String)
  /-- The frame was destroyed by a cancellation. -/
  | dropped
  deriving DecidableEq, Repr

structure MqttCtx where
  client : Bool := true
  connectStatus : Option Nat := none
  connected : Bool := false
  channels : List Nat := []
  /-- History: how often its client has been freed. -/
  freed : Nat := 0
  deriving DecidableEq, Repr

def accepted : Nat := 0

inductive Opening
  | newFails
  | connectFails (ctx : Nat)
  | begins (ctx : Nat)
  deriving DecidableEq, Repr

inductive Lookup
  | fails
  | inProgress
  | found (opening : Opening)
  deriving DecidableEq, Repr

structure State where
  frame : Nat → Frame := fun _ => .unused
  /-- The contexts that have been made; what keeps one alive is `Holds`. -/
  ctx : Nat → Option MqttCtx := fun _ => none
  /-- `m_impl` of the `MqttClient` objects -/
  impl : Nat → Option Nat := fun _ => none
  /-- lwIP has yet to call back with the address that this frame asked for. -/
  lookup : Nat → Bool := fun _ => false
  /-- lwIP may call back for the request of this frame, on the client of the context. -/
  pending : Nat → Option Nat := fun _ => none

inductive Move
  | connect (frame : Nat) (lookup : Lookup)
  | onFound (frame : Nat) (address : Bool)
  | resolved (frame : Nat) (opening : Opening)
  | onConnect (ctx status : Nat)
  | connected (frame object : Nat)
  | request (frame object : Nat) (request : Request) (starts : Bool)
  | onRequest (frame : Nat) (acknowledged : Bool)
  | answered (frame : Nat)
  | cancel (frame : Nat)
  /-- A move assignment, or a move construction if `target` holds nothing. -/
  | move (target source : Nat)
  | destroy (object : Nat)

namespace State

variable (state : State)

def setFrame (frame : Nat) (content : Frame) : State :=
  { state with frame := update state.frame frame content }

def setCtx (ctx : Nat) (content : MqttCtx) : State :=
  { state with ctx := update state.ctx ctx (some content) }

def setImpl (object : Nat) (impl : Option Nat) : State :=
  { state with impl := update state.impl object impl }

def register (frame ctx : Nat) : State :=
  { state with pending := update state.pending frame (some ctx) }

/-- `mqtt_client_free()`: lwIP forgets the requests of the client. -/
def free (ctx : Nat) (content : MqttCtx) : State :=
  { state.setCtx ctx { content with client := false, freed := content.freed + 1 } with
    pending := fun frame =>
      if state.pending frame = some ctx then none else state.pending frame }

/-- The second step of `connect()`, up to its wait -/
def beginConnect (frame : Nat) : Opening → Option State
  | .newFails => some (state.setFrame frame (.threw "MqttClient::connect: mqtt_client_new failed"))
  | .connectFails ctx =>
    if state.ctx ctx = none then
      some ((state.free ctx {}).setFrame frame
        (.threw "MqttClient::connect: mqtt_client_connect failed"))
    else none
  | .begins ctx =>
    if state.ctx ctx = none then some ((state.setCtx ctx {}).setFrame frame (.connecting ctx))
    else none

def connect (frame : Nat) : Lookup → Option State
  | .fails => some (state.setFrame frame (.threw "MqttClient::connect: dns_gethostbyname failed"))
  | .inProgress =>
    some { state.setFrame frame (.resolving none) with
      lookup := update state.lookup frame true }
  | .found opening => state.beginConnect frame opening

def onConnect (content : MqttCtx) (status : Nat) : MqttCtx :=
  if content.connectStatus = none then
    { content with connectStatus := some status, connected := status == accepted }
  else { content with connected := false }

def connected (frame object ctx : Nat) (content : MqttCtx) : Option State :=
  content.connectStatus.bind fun status =>
    if status = accepted then
      if state.impl object = none then
        some ((state.setImpl object (some ctx)).setFrame frame .returned)
      else none
    else
      some ((state.free ctx content).setFrame frame
        (.threw s!"MqttClient::connect: broker refused connection, status={status}"))

def request (frame ctx : Nat) (content : MqttCtx) (starts : Bool)
    (request : Request) : State :=
  if !content.connected then
    state.setFrame frame <| .threw <| match request with
      | .publish => "MqttClient::publish: not connected"
      | .subscribe .. => "MqttClient::subscribe: not connected"
  else if !starts then
    state.setFrame frame <| .threw <| match request with
      | .publish => "MqttClient::publish: mqtt_publish failed"
      | .subscribe .. => "MqttClient::subscribe: mqtt_subscribe failed"
  else
    -- from here on lwIP has an address in the frame
    let state := state.register frame ctx
    match request with
    | .publish => state.setFrame frame (.requesting request ctx none)
    | .subscribe topic capacity =>
      if topic ∈ content.channels then state.setFrame frame (.requesting request ctx none)
      else if capacity = 0 then
        state.setFrame frame (.threw "broadcast_channel: capacity must be non-zero")
      else
        (state.setCtx ctx { content with channels := topic :: content.channels }).setFrame frame
          (.requesting request ctx none)

def answered : Request → Bool → Frame
  | _, true => .returned
  | .publish, false => .threw "MqttClient::publish: broker did not acknowledge"
  | .subscribe .., false => .threw "MqttClient::subscribe: broker refused subscription"

def destroy (object : Nat) : State :=
  match state.impl object with
  | none => state
  | some ctx =>
    match state.ctx ctx with
    | none => state
    | some content =>
      (if content.client then state.free ctx content else state).setImpl object none

def step : Move → Option State
  | .connect frame lookup =>
    if state.frame frame = .unused then state.connect frame lookup else none
  | .onFound frame address =>
    match state.lookup frame, state.frame frame with
    | true, .resolving _ =>
      some { state.setFrame frame (.resolving (some address)) with
        lookup := update state.lookup frame false }
    | _, _ => none
  | .resolved frame opening =>
    match state.frame frame with
    | .resolving (some true) => state.beginConnect frame opening
    | .resolving (some false) =>
      some (state.setFrame frame (.threw "MqttClient::connect: DNS lookup failed"))
    | _ => none
  | .onConnect ctx status =>
    match state.ctx ctx with
    | some content =>
      if content.freed = 0 then some (state.setCtx ctx (onConnect content status)) else none
    | none => none
  | .connected frame object =>
    match state.frame frame with
    | .connecting ctx => (state.ctx ctx).bind (state.connected frame object ctx)
    | _ => none
  | .request frame object request starts =>
    if state.frame frame = .unused then
      (state.impl object).bind fun ctx => (state.ctx ctx).map fun content =>
        state.request frame ctx content starts request
    else none
  | .onRequest frame acknowledged =>
    match state.pending frame, state.frame frame with
    | some _, .requesting request ctx _ =>
      some { state.setFrame frame (.requesting request ctx (some acknowledged)) with
        pending := update state.pending frame none }
    | _, _ => none
  | .answered frame =>
    match state.frame frame with
    | .requesting request _ (some acknowledged) =>
      some (state.setFrame frame (answered request acknowledged))
    | _ => none
  | .cancel frame =>
    match state.frame frame with
    | .resolving _ | .connecting _ | .requesting .. => some (state.setFrame frame .dropped)
    | _ => none
  | .move target source =>
    if target = source then some state
    else some ((state.setImpl target (state.impl source)).setImpl source none)
  | .destroy object => some (state.destroy object)

def Holds (ctx : Nat) : Prop :=
  (∃ frame, state.frame frame = .connecting ctx) ∨
    (∃ frame request value, state.frame frame = .requesting request ctx value) ∨
    ∃ object, state.impl object = some ctx

end State

def machine : Machine State Move where
  initial := {}
  step := State.step

/-- No coroutine is cancelled before its callback has come, or in its `ConnectWait`, no
object is assigned to that has a client, and no new topic gets a channel of capacity zero. -/
def keepsTargets (state : State) : Move → Bool
  | .cancel frame =>
    !state.lookup frame && (state.pending frame).isNone &&
      match state.frame frame with
      | .connecting _ => false
      | _ => true
  | .move target source =>
    target == source || !((state.impl target).bind state.ctx).any (·.client)
  | .request _ object (.subscribe topic capacity) _ =>
    capacity != 0 || ((state.impl object).bind state.ctx).any (topic ∈ ·.channels)
  | _ => true

/-- The callbacks' targets are alive, and each client is freed once. -/
structure Targets (state : State) : Prop where
  lookups : ∀ frame, state.lookup frame → ∃ value, state.frame frame = .resolving value
  requests : ∀ frame ctx, state.pending frame = some ctx →
    ∃ request value, state.frame frame = .requesting request ctx value
  contexts : ∀ ctx content, state.ctx ctx = some content → content.freed = 0 → state.Holds ctx
  once : ∀ ctx content, state.ctx ctx = some content → content.freed ≤ 1 ∧
    (¬state.Holds ctx → content.freed = 1)

/-! ## The addresses that lwIP has -/

structure Addressed (lookup : Bool) (pending : Option Nat) (frame : Frame) : Prop where
  lookup : lookup → frame = .resolving none
  request : ∀ ctx, pending = some ctx → ∃ request, frame = .requesting request ctx none

namespace Addressed

theorem not_looking {looks : Bool} (addressed : Addressed looks pending frame)
    (answered : frame ≠ .resolving none) : looks = false := by
  rw [Bool.eq_false_iff]
  exact fun looks => answered (addressed.lookup looks)

theorem not_pending {looks : Bool} (addressed : Addressed looks pending frame)
    (acknowledged : ∀ request ctx, frame ≠ .requesting request ctx none) : pending = none := by
  rw [Option.eq_none_iff_forall_ne_some]
  intro ctx pends
  rcases addressed.request ctx pends with ⟨request, is⟩
  exact acknowledged request ctx is

/-- lwIP has no address in a frame that does not wait for a callback. -/
theorem idle {looks : Bool} (addressed : Addressed looks pending frame)
    (answered : frame ≠ .resolving none)
    (acknowledged : ∀ request ctx, frame ≠ .requesting request ctx none) :
    looks = false ∧ pending = none :=
  ⟨addressed.not_looking answered, addressed.not_pending acknowledged⟩

theorem of_idle {looks : Bool} (idle : looks = false ∧ pending = none) (frame : Frame) :
    Addressed looks pending frame := by
  rcases idle with ⟨rfl, rfl⟩
  constructor <;> simp

theorem step {state : State} (next : State) (frame : Nat)
    (addressed : ∀ id, Addressed (state.lookup id) (state.pending id) (state.frame id))
    (others : ∀ other, other ≠ frame → next.lookup other = state.lookup other ∧
      next.pending other = state.pending other ∧ next.frame other = state.frame other)
    (here : Addressed (next.lookup frame) (next.pending frame) (next.frame frame)) (id : Nat) :
    Addressed (next.lookup id) (next.pending id) (next.frame id) := by
  by_cases same : id = frame
  · exact same ▸ here
  · rcases others id same with ⟨lookup, pending, frame⟩
    rw [lookup, pending, frame]
    exact addressed id

theorem setFrame {state : State}
    (addressed : ∀ id, Addressed (state.lookup id) (state.pending id) (state.frame id))
    (idle : state.lookup frame = false ∧ state.pending frame = none) (content : Frame) (id : Nat) :
    Addressed (state.lookup id) (state.pending id) ((state.setFrame frame content).frame id) := by
  refine Addressed.step (state.setFrame frame content) frame addressed ?_ (.of_idle idle _) id
  intro other apart
  simp [State.setFrame, apart]

end Addressed

/-! ## The owners of the clients -/

/-- Who frees a client: a `connect()` that fails, or an object -/
inductive Owner
  | frame (id : Nat)
  | object (id : Nat)
  deriving DecidableEq

def Frame.holds : Frame → Option Nat
  | .connecting ctx => some ctx
  | _ => none

def State.holds (state : State) : Owner → Option Nat
  | .frame id => (state.frame id).holds
  | .object id => state.impl id

theorem State.holds_setFrame (state : State) (frame : Nat) (content : Frame) :
    (state.setFrame frame content).holds = update state.holds (.frame frame) content.holds := by
  funext owner
  cases owner with
  | frame id =>
    by_cases same : id = frame
    · simp [State.holds, State.setFrame, same]
    · simp [State.holds, State.setFrame, same]
  | object => rfl

theorem State.holds_setImpl (state : State) (object : Nat) (impl : Option Nat) :
    (state.setImpl object impl).holds = update state.holds (.object object) impl := by
  funext owner
  cases owner with
  | frame => rfl
  | object id =>
    by_cases same : id = object
    · simp [State.holds, State.setImpl, same]
    · simp [State.holds, State.setImpl, same]

/-- A client has one owner until it is freed. -/
structure Owned (holds : Owner → Option Nat) (ctx : Nat → Option MqttCtx) : Prop where
  freed : ∀ id content, ctx id = some content → content.freed = if content.client then 0 else 1
  client : ∀ id content, ctx id = some content →
    (content.client ↔ ∃ owner, holds owner = some id)
  known : ∀ owner id, holds owner = some id → ctx id ≠ none
  only : ∀ owner other id, holds owner = some id → holds other = some id → owner = other

namespace Owned

variable {holds next : Owner → Option Nat} {ctx : Nat → Option MqttCtx} {id : Nat}
  (owned : Owned holds ctx)

include owned

theorem client_of_holds (is : holds owner = some id) (found : ctx id = some content) :
    content.client :=
  (owned.client id content found).mpr ⟨owner, is⟩

/-- One context changes, and perhaps its owner. -/
theorem set (freed : content.freed = if content.client then 0 else 1)
    (client : content.client ↔ ∃ owner, next owner = some id)
    (others : ∀ other, other ≠ id →
      ((∃ owner, next owner = some other) ↔ ∃ owner, holds owner = some other))
    (only : ∀ owner other id, next owner = some id → next other = some id → owner = other) :
    Owned next (update ctx id (some content)) where
  freed other known is := by
    by_cases same : other = id
    · subst same
      cases (update_self ..).symm.trans is
      exact freed
    · exact owned.freed other known ((update_of_ne same ..).symm.trans is)
  client other known is := by
    by_cases same : other = id
    · subst same
      cases (update_self ..).symm.trans is
      exact client
    · rw [others other same]
      exact owned.client other known ((update_of_ne same ..).symm.trans is)
  known owner other is := by
    by_cases same : other = id
    · simp [same]
    · rcases (others other same).mp ⟨owner, is⟩ with ⟨before, is⟩
      exact (update_of_ne same ..).trans_ne (owned.known before other is)
  only := only

theorem keep (found : ctx id = some content) (freed : changed.freed = content.freed)
    (client : changed.client = content.client) : Owned holds (update ctx id (some changed)) := by
  refine owned.set ?_ ?_ (fun _ _ => Iff.rfl) owned.only
  · rw [freed, client]
    exact owned.freed id content found
  · rw [client]
    exact owned.client id content found

theorem make (fresh : ctx id = none) (free : holds owner = none) :
    Owned (update holds owner (some id)) (update ctx id (some {})) := by
  have unheld : ∀ other, holds other ≠ some id := fun other is => owned.known other id is fresh
  refine owned.set rfl ⟨fun _ => ⟨owner, update_self ..⟩, fun _ => rfl⟩ ?_ ?_
  · intro other apart
    rw [exists_update_eq]
    grind
  · grind [owned.only]

theorem discard (fresh : ctx id = none) :
    Owned holds (update ctx id (some { client := false, freed := 1 })) := by
  refine owned.set rfl ?_ (fun _ _ => Iff.rfl) owned.only
  simpa using fun other is => owned.known other id is fresh

theorem release (is : holds owner = some id) (found : ctx id = some content) :
    Owned (update holds owner none)
      (update ctx id (some { content with client := false, freed := content.freed + 1 })) := by
  have alive : content.freed = 0 := by
    simpa [owned.client_of_holds is found] using owned.freed id content found
  refine owned.set (by simp [alive]) ?_ ?_ (by grind [owned.only])
  · simp only [Bool.false_eq_true, false_iff, not_exists]
    intro other still
    by_cases same : other = owner
    · simp [same] at still
    · exact same (owned.only other owner id ((update_of_ne same ..).symm.trans still) is)
  · intro other apart
    rw [exists_update_eq]
    grind

theorem transfer (apart : target ≠ source) (free : holds target = none) :
    Owned (update (update holds target (holds source)) source none) ctx := by
  have moved : ∀ id, (∃ owner, update (update holds target (holds source)) source none owner =
      some id) ↔ ∃ owner, holds owner = some id := by
    intro id
    constructor
    · grind
    · rintro ⟨owner, is⟩
      by_cases same : owner = source
      · exact ⟨target, by grind⟩
      · exact ⟨owner, by grind⟩
  constructor
  case freed => exact owned.freed
  case client => exact fun id content found => (owned.client id content found).trans (moved id).symm
  case known =>
    intro owner id is
    rcases (moved id).mp ⟨owner, is⟩ with ⟨before, is⟩
    exact owned.known before id is
  case only =>
    intro owner other id is also
    grind [owned.only]

end Owned

/-! ## Every move -/

structure Inv (state : State) : Prop where
  addressed : ∀ id, Addressed (state.lookup id) (state.pending id) (state.frame id)
  owned : Owned state.holds state.ctx

namespace Inv

variable {state next : State} (inv : Inv state)

include inv

theorem owned_setFrame (same : content.holds = (state.frame frame).holds) :
    Owned (state.setFrame frame content).holds state.ctx := by
  have kept : (state.setFrame frame content).holds = state.holds := by
    rw [State.holds_setFrame, same]
    exact Function.update_eq_self ..
  exact kept ▸ inv.owned

/-- A frame that lwIP has no address in goes on, and owns what it owned. -/
theorem setFrame (idle : state.lookup frame = false ∧ state.pending frame = none)
    (same : content.holds = (state.frame frame).holds) : Inv (state.setFrame frame content) :=
  ⟨Addressed.setFrame inv.addressed idle content, inv.owned_setFrame same⟩

theorem addressed_free (ctx : Nat) (content : MqttCtx) (id : Nat) :
    Addressed ((state.free ctx content).lookup id) ((state.free ctx content).pending id)
      ((state.free ctx content).frame id) := by
  refine ⟨(inv.addressed id).lookup, ?_⟩
  intro other pends
  apply (inv.addressed id).request
  simp only [State.free] at pends
  split at pends
  · cases pends
  · exact pends

theorem beginConnect (idle : state.lookup frame = false ∧ state.pending frame = none)
    (early : (state.frame frame).holds = none)
    (step : state.beginConnect frame opening = some next) : Inv next := by
  cases opening with
  | newFails =>
    cases step
    exact inv.setFrame idle early.symm
  | connectFails ctx =>
    rcases of_guard step with ⟨fresh, rfl⟩
    have freed : Inv (state.free ctx {}) := ⟨inv.addressed_free ctx {}, inv.owned.discard fresh⟩
    refine freed.setFrame ?_ early.symm
    simp [State.free, State.setCtx, idle]
  | begins ctx =>
    rcases of_guard step with ⟨fresh, rfl⟩
    refine ⟨Addressed.setFrame inv.addressed idle _, ?_⟩
    rw [State.holds_setFrame]
    exact inv.owned.make fresh early

theorem connected (waits : state.frame frame = .connecting ctx)
    (found : state.ctx ctx = some content)
    (step : state.connected frame object ctx content = some next) : Inv next := by
  have idle := (inv.addressed frame).idle (by simp [waits]) (by simp [waits])
  have holds : state.holds (.frame frame) = some ctx := by simp [State.holds, waits, Frame.holds]
  rcases Option.bind_eq_some_iff.mp step with ⟨status, _, step⟩
  split at step
  · rcases of_guard step with ⟨empty, rfl⟩
    refine ⟨Addressed.setFrame inv.addressed idle _, ?_⟩
    rw [State.holds_setFrame, State.holds_setImpl, ← holds]
    exact inv.owned.transfer nofun empty
  · cases step
    constructor
    · refine Addressed.setFrame (inv.addressed_free ctx content) ?_ _
      simp [State.free, State.setCtx, idle]
    · rw [State.holds_setFrame]
      exact inv.owned.release holds found

theorem requesting (unused : state.frame frame = .unused) (ctx : Nat) (kind : Request) :
    Inv ((state.register frame ctx).setFrame frame (.requesting kind ctx none)) := by
  constructor
  · refine Addressed.step _ frame inv.addressed ?_ ?_
    · intro other apart
      simp [State.setFrame, State.register, apart]
    · have idle := (inv.addressed frame).idle (by simp [unused]) (by simp [unused])
      constructor <;> simp [State.setFrame, State.register, idle]
  · exact inv.owned_setFrame (by simp [unused, Frame.holds])

theorem request (unused : state.frame frame = .unused) (found : state.ctx ctx = some content)
    (opens : ∀ topic capacity, kind = .subscribe topic capacity →
      capacity ≠ 0 ∨ topic ∈ content.channels) :
    Inv (state.request frame ctx content starts kind) := by
  have idle := (inv.addressed frame).idle (by simp [unused]) (by simp [unused])
  have waits := inv.requesting unused ctx kind
  unfold State.request
  split
  · exact inv.setFrame idle (by simp [unused, Frame.holds])
  split
  · exact inv.setFrame idle (by simp [unused, Frame.holds])
  cases kind with
  | publish => exact waits
  | subscribe topic capacity =>
    simp only
    split
    · exact waits
    · rename_i absent
      rw [if_neg ((opens topic capacity rfl).resolve_right absent)]
      exact ⟨waits.addressed, waits.owned.keep found rfl rfl⟩

theorem destroy (object : Nat) : Inv (state.destroy object) := by
  unfold State.destroy
  split
  · exact inv
  rename_i ctx impl
  split
  · exact inv
  rename_i content found
  have holds : state.holds (.object object) = some ctx := impl
  rw [if_pos (inv.owned.client_of_holds holds found)]
  refine ⟨inv.addressed_free ctx content, ?_⟩
  rw [State.holds_setImpl]
  exact inv.owned.release holds found

theorem move (apart : target ≠ source)
    (free : ((state.impl target).bind state.ctx).any (·.client) = false) :
    Inv ((state.setImpl target (state.impl source)).setImpl source none) := by
  have empty : state.holds (.object target) = none := by
    rw [Option.eq_none_iff_forall_ne_some]
    intro ctx holds
    rcases Option.ne_none_iff_exists'.mp (inv.owned.known _ ctx holds) with ⟨content, found⟩
    have client := inv.owned.client_of_holds holds found
    have impl : state.impl target = some ctx := holds
    simp [impl, found, client] at free
  refine ⟨inv.addressed, ?_⟩
  rw [State.holds_setImpl, State.holds_setImpl]
  exact inv.owned.transfer (by simpa using apart) empty

theorem step {move : Move} (admitted : keepsTargets state move)
    (step : state.step move = some next) : Inv next := by
  cases move with simp only [State.step] at step
  | connect frame lookup =>
    rcases Option.ite_none_right_eq_some.mp step with ⟨unused, step⟩
    have idle := (inv.addressed frame).idle (by simp [unused]) (by simp [unused])
    have none : (state.frame frame).holds = none := by simp [unused, Frame.holds]
    cases lookup with
    | fails =>
      cases step
      exact inv.setFrame idle none.symm
    | inProgress =>
      cases step
      refine ⟨Addressed.step _ frame inv.addressed ?_ ?_, inv.owned_setFrame none.symm⟩
      · intro other apart
        simp [State.setFrame, apart]
      · constructor <;> simp [State.setFrame, idle]
    | found opening => exact inv.beginConnect idle none step
  | onFound frame address =>
    split at step <;> cases step
    rename_i is
    have quiet := (inv.addressed frame).not_pending (by simp [is])
    refine ⟨Addressed.step _ frame inv.addressed ?_ (.of_idle ⟨by simp, quiet⟩ _),
      inv.owned_setFrame (by simp [is, Frame.holds])⟩
    intro other apart
    simp [State.setFrame, apart]
  | onRequest frame acknowledged =>
    split at step <;> cases step
    rename_i is
    have quiet := (inv.addressed frame).not_looking (by simp [is])
    refine ⟨Addressed.step _ frame inv.addressed ?_ (.of_idle ⟨quiet, by simp⟩ _),
      inv.owned_setFrame (by simp [is, Frame.holds])⟩
    intro other apart
    simp [State.setFrame, apart]
  | resolved frame opening =>
    split at step
    · rename_i is
      have idle := (inv.addressed frame).idle (by simp [is]) (by simp [is])
      exact inv.beginConnect idle (by simp [is, Frame.holds]) step
    · rename_i is
      have idle := (inv.addressed frame).idle (by simp [is]) (by simp [is])
      cases step
      exact inv.setFrame idle (by simp [is, Frame.holds])
    · cases step
  | onConnect ctx status =>
    split at step
    · rename_i content found
      rcases of_guard step with ⟨_, rfl⟩
      refine ⟨inv.addressed, inv.owned.keep found ?_ ?_⟩
      all_goals
        unfold State.onConnect
        split <;> rfl
    · cases step
  | connected frame object =>
    split at step
    · rcases Option.bind_eq_some_iff.mp step with ⟨content, found, step⟩
      exact inv.connected ‹_› found step
    · cases step
  | request frame object request starts =>
    rcases Option.ite_none_right_eq_some.mp step with ⟨unused, step⟩
    rcases Option.bind_eq_some_iff.mp step with ⟨ctx, impl, step⟩
    rcases Option.map_eq_some_iff.mp step with ⟨content, found, rfl⟩
    refine inv.request unused found ?_
    rintro topic capacity rfl
    simpa [keepsTargets, impl, found] using admitted
  | answered frame =>
    split at step <;> cases step
    rename_i request _ acknowledged is
    have idle := (inv.addressed frame).idle (by simp [is]) (by simp [is])
    refine inv.setFrame idle ?_
    rw [is]
    cases request <;> cases acknowledged <;> rfl
  | cancel frame =>
    simp only [keepsTargets, Bool.and_eq_true, Bool.not_eq_true', Option.isNone_iff_eq_none]
      at admitted
    split at step
    case h_4 => cases step
    all_goals
      rename_i is
      cases step
      rw [is] at admitted
    case h_2 => cases admitted.2
    all_goals exact inv.setFrame admitted.1 (by simp [is, Frame.holds])
  | move target source =>
    split at step
    · cases step
      exact inv
    · rename_i apart
      cases step
      simp only [keepsTargets, Bool.or_eq_true, beq_iff_eq, apart, false_or,
        Bool.not_eq_true'] at admitted
      exact inv.move apart admitted
  | destroy object =>
    cases step
    exact inv.destroy object

theorem targets : Targets state := by
  have held : ∀ ctx content, state.ctx ctx = some content → content.client → state.Holds ctx := by
    intro ctx content found client
    rcases (inv.owned.client ctx content found).mp client with ⟨owner, holds⟩
    cases owner with
    | frame id =>
      refine .inl ⟨id, ?_⟩
      cases is : state.frame id <;> simp_all [State.holds, Frame.holds]
    | object id => exact .inr (.inr ⟨id, holds⟩)
  constructor
  case lookups => exact fun frame looks => ⟨none, (inv.addressed frame).lookup looks⟩
  case requests =>
    intro frame ctx pends
    rcases (inv.addressed frame).request ctx pends with ⟨request, is⟩
    exact ⟨request, none, is⟩
  case contexts =>
    intro ctx content found unfreed
    have freed := inv.owned.freed ctx content found
    refine held ctx content found ?_
    by_contra client
    simp [client, unfreed] at freed
  case once =>
    intro ctx content found
    have freed := inv.owned.freed ctx content found
    cases client : content.client with
    | true =>
      exact ⟨by simp [freed, client], fun lost => absurd (held ctx content found client) lost⟩
    | false => simp [freed, client]

end Inv

end CoroRuntime.Mqtt
