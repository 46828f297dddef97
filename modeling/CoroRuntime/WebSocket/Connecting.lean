import CoroRuntime.Foundation.Execution

/-! # Connect attempts and the context that serves them

`WsStream::ConnectAttempt` and `protocol_cb()` in `src/io/ws_stream.cpp` with the commands of
`LwsService` in `src/io/ws_service.cpp`, for a context that is attached to a driver. The turn of
the driver is one thread of control. It calls lws, and lws calls back inside it. Every critical
section is one move. The attempts are numbered, and each has its connection.
-/

namespace CoroRuntime.WebSocket

open Foundation

inductive ConnectErrno
  | econnrefused
  | econnaborted
  deriving DecidableEq, Repr

structure ConnectState (Waker : Type u) where
  complete : Bool := false
  error : Option (ConnectErrno × String) := none
  cancelled : Bool := false
  waker : Option Waker := none
  deriving DecidableEq, Repr

inductive AttemptResult
  | stream
  | failed (errno : ConnectErrno) (reason : String)
  deriving DecidableEq, Repr

structure Attempt (Waker : Type u) where
  connect : ConnectState Waker := {}
  started : Bool := false
  /-- The first poll has stored its waker and has not posted the connect yet. -/
  posting : Bool := false
  /-- the `m_state` of the attempt is not null -/
  owns : Bool := true
  dropped : Bool := false
  /-- The destructor of the attempt is about to post a close. -/
  leaving : Bool := false
  result : Option AttemptResult := none
  /-- the `WsStream`s that have the connection -/
  streams : Nat := 0
  wsi : Bool := false
  closing : Bool := false
  /-- History: the connection has reached ESTABLISHED. -/
  established : Bool := false
  /-- History: the command of the attempt was dropped and not run. -/
  unrun : Bool := false
  /-- History: the waker of the last poll, if that was pending, and whether it was woken since. -/
  waiting : Option Waker := none
  woken : Bool := false
  deriving DecidableEq, Repr

inductive Command
  | connect (index : Nat)
  | close (index : Nat)
  /-- the command of a send, which asks for a writeable callback -/
  | write (index : Nat)
  deriving DecidableEq, Repr

inductive Turn
  | idle
  /-- lws has emptied its pipe and reports it; `run_commands()` has not locked the queue yet. -/
  | reported
  /-- `run_commands()` has this to run -/
  | running (commands : List Command)
  /-- The command of an attempt is inside `lws_client_connect_via_info()`. -/
  | connecting (index : Nat) (rest : List Command)
  | destroying
  | destroyed
  deriving DecidableEq, Repr

structure Service (Waker : Type u) where
  attempts : Nat → Attempt Waker := fun _ => {}
  ctx : Bool := true
  destroyRequested : Bool := false
  destroying : Bool := false
  driverShutDown : Bool := false
  commands : List Command := []
  /-- the wake pipe of lws is readable -/
  pipe : Bool := false
  turn : Turn := .idle
  held : List Nat := []
  /-- the waker that the callback is about to wake -/
  waking : Option (Nat × Waker) := none

inductive ServiceMove (Waker : Type u)
  | poll (index : Nat) (waker : Waker)
  /-- `post_connect()` of the first poll -/
  | postConnect (index : Nat)
  | dropAttempt (index : Nat)
  /-- `post_close()` of a dropped attempt -/
  | postClose (index : Nat)
  | dropStream (index : Nat)
  | postWrite (index : Nat)
  | release
  | shutdown
  /-- lws services its pipe -/
  | report
  | takeCommands
  | runCommand
  /-- `lws_client_connect_via_info()` returns -/
  | connectReturns (ok : Bool)
  | commandsDone
  | established (index : Nat)
  | connectionError (index : Nat) (reason : String)
  /-- CLOSED or WSI_DESTROY -/
  | closed (index : Nat)
  | wake
  /-- `destroy_in_turn()` begins -/
  | destroy
  /-- `lws_context_destroy()` has returned, and `finish_destroy()` runs. -/
  | finishDestroy
  deriving DecidableEq, Repr

namespace Service

variable {Waker : Type u}
variable (service : Service Waker)

def setAttempt (index : Nat) (attempt : Attempt Waker) : Service Waker :=
  { service with attempts := Function.update service.attempts index attempt }

def discard : Command → Service Waker
  | .connect index => service.setAttempt index { service.attempts index with unrun := true }
  | .close _ | .write _ => service

def post (command : Command) : Service Waker :=
  if !service.ctx || service.destroying then service.discard command
  else
    { service with
      commands := service.commands ++ [command]
      pipe := service.pipe || service.commands.isEmpty }

def poll (index : Nat) (waker : Waker) : Service Waker :=
  let attempt := service.attempts index
  let stored := { attempt with
    connect := { attempt.connect with waker := some waker }
    waiting := some waker
    woken := false }
  if !attempt.started then
    service.setAttempt index { stored with started := true, posting := true }
  else if !attempt.connect.complete then service.setAttempt index stored
  else
    match attempt.connect.error with
    | some (errno, reason) =>
      service.setAttempt index
        { attempt with result := some (.failed errno reason), waiting := none }
    | none =>
      service.setAttempt index
        { attempt with
          result := some .stream
          waiting := none
          owns := false
          streams := attempt.streams + 1 }

def dropAttempt (index : Nat) : Service Waker :=
  let attempt := service.attempts index
  if !attempt.owns then service.setAttempt index { attempt with dropped := true }
  else
    service.setAttempt index
      { attempt with
        dropped := true
        owns := false
        leaving := attempt.connect.complete && attempt.connect.error.isNone
        connect :=
          { attempt.connect with
            cancelled := attempt.connect.cancelled || !attempt.connect.complete } }

def release : Service Waker :=
  if !service.ctx || service.destroying then service
  else { service with destroyRequested := true, pipe := true }

/-- The part of `close_connection()` that concerns the attempt. lws holds the connection no
longer. -/
def closeConnection (index : Nat) (errno : ConnectErrno)
    (reason : String) : Service Waker :=
  let attempt := service.attempts index
  let gone := { service with held := service.held.erase index }
  if attempt.connect.complete then gone.setAttempt index { attempt with wsi := false }
  else
    { gone.setAttempt index
        { attempt with
          wsi := false
          connect :=
            { attempt.connect with complete := true, error := some (errno, reason) } } with
      waking := attempt.connect.waker.map fun waker => (index, waker) }

def establish (index : Nat) : Service Waker :=
  let attempt := { service.attempts index with wsi := true, established := true }
  if attempt.connect.cancelled then service.setAttempt index { attempt with closing := true }
  else
    { service.setAttempt index
        { attempt with connect := { attempt.connect with complete := true } } with
      waking := attempt.connect.waker.map fun waker => (index, waker) }

def run (rest : List Command) : Command → Service Waker
  | .connect index =>
    if (service.attempts index).connect.cancelled then { service with turn := .running rest }
    else { service with turn := .connecting index rest, held := index :: service.held }
  | .close index =>
    let attempt := service.attempts index
    if attempt.wsi then
      { service.setAttempt index { attempt with closing := true } with turn := .running rest }
    else { service with turn := .running rest }
  | .write _ => { service with turn := .running rest }

def wake [DecidableEq Waker] (service : Service Waker) : Option (Service Waker) :=
  match service.waking with
  | none => none
  | some (index, waker) =>
    let attempt := service.attempts index
    some { service.setAttempt index
        { attempt with woken := attempt.woken || attempt.waiting = some waker } with
      waking := none }

/-- `destroy_in_turn()` up to `lws_context_destroy()` -/
def destroy : Service Waker :=
  { service.commands.foldl discard service with
    destroying := true, commands := [], turn := .destroying }

/-- The moves of the turn. No callback is about to wake anybody. -/
def turnStep : ServiceMove Waker → Option (Service Waker)
  | .report =>
    match service.turn with
    | .idle =>
      if service.ctx then some { service with pipe := false, turn := .reported } else none
    | _ => none
  | .takeCommands =>
    match service.turn with
    | .reported => some { service with commands := [], turn := .running service.commands }
    | _ => none
  | .runCommand =>
    match service.turn with
    | .running (command :: rest) => some (service.run rest command)
    | _ => none
  | .connectReturns ok =>
    match service.turn with
    | .connecting index rest =>
      if ok then some { service with turn := .running rest }
      else
        some { service.closeConnection index .econnrefused
          "lws_client_connect_via_info failed" with turn := .running rest }
    | _ => none
  | .commandsDone =>
    match service.turn with
    | .running [] => some { service with turn := .idle }
    | _ => none
  | .established index =>
    if index ∈ service.held ∧ (service.attempts index).established = false then
      some (service.establish index)
    else none
  | .connectionError index reason =>
    if index ∈ service.held ∧ (service.attempts index).established = false then
      some (service.closeConnection index .econnrefused reason)
    else none
  | .closed index =>
    if index ∈ service.held then
      some (service.closeConnection index .econnaborted "connection closed during the handshake")
    else none
  | .destroy =>
    match service.turn with
    | .idle =>
      if service.ctx && (service.driverShutDown || service.destroyRequested) then
        some service.destroy
      else none
    | _ => none
  | .finishDestroy =>
    match service.turn with
    | .destroying =>
      if service.held = [] then some { service with ctx := false, turn := .destroyed } else none
    | _ => none
  | _ => none

def step [DecidableEq Waker] (service : Service Waker) :
    ServiceMove Waker → Option (Service Waker)
  | .poll index waker =>
    let attempt := service.attempts index
    if attempt.owns && !attempt.posting then some (service.poll index waker) else none
  | .postConnect index =>
    let attempt := service.attempts index
    if attempt.posting then
      some ((service.setAttempt index { attempt with posting := false }).post (.connect index))
    else none
  | .dropAttempt index =>
    let attempt := service.attempts index
    if attempt.dropped || attempt.posting then none else some (service.dropAttempt index)
  | .postClose index =>
    let attempt := service.attempts index
    if attempt.leaving then
      some ((service.setAttempt index { attempt with leaving := false }).post (.close index))
    else none
  | .dropStream index =>
    let attempt := service.attempts index
    if 0 < attempt.streams then
      some ((service.setAttempt index { attempt with streams := attempt.streams - 1 }).post
        (.close index))
    else none
  | .postWrite index => some (service.post (.write index))
  | .release => some service.release
  | .shutdown => some { service with driverShutDown := true }
  | .wake => service.wake
  | move => if service.waking.isNone then service.turnStep move else none

end Service

def serviceMachine (Waker : Type u) [DecidableEq Waker] :
    Machine (Service Waker) (ServiceMove Waker) where
  initial := {}
  step := Service.step

end CoroRuntime.WebSocket
