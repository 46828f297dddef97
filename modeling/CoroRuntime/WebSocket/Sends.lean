import CoroRuntime.Foundation.Execution

/-! # Sends on a WebSocket connection

`SendFuture`, `on_writeable()` and the part of `close_connection()` that concerns sends, in
`src/io/ws_stream.cpp`. Every critical section of `send_queue_mutex` is one move, and so is the
call of `lws_write()`, which is made without it. The futures are numbered.
-/

namespace CoroRuntime.WebSocket

open Foundation

structure Message (Byte : Type u) where
  data : List Byte
  isText : Bool
  deriving DecidableEq, Repr

inductive Errno
  | eio
  | enotconn
  deriving DecidableEq, Repr

structure SendNode (Byte : Type u) (Waker : Type v) where
  waker : Option Waker := none
  /-- `none` when it has not been allocated or the callback has taken it -/
  frame : Option (List Byte) := none
  size : Nat := 0
  isText : Bool
  complete : Bool := false
  error : Option Errno := none
  deriving DecidableEq, Repr

inductive SendResult
  | ready
  | error (errno : Errno)
  /-- the exception of a first poll on a closed connection -/
  | closed
  deriving DecidableEq, Repr

structure SendFuture (Byte : Type u) (Waker : Type v) where
  data : List Byte
  node : SendNode Byte Waker
  started : Bool := false
  /-- The first poll has found the connection open and has not locked the queue yet. -/
  polling : Bool := false
  dropped : Bool := false
  result : Option SendResult := none
  /-- History: the waker of the last poll, if that was pending, and whether it was woken since. -/
  waiting : Option Waker := none
  woken : Bool := false
  /-- History: how often a completion was recorded in the node. -/
  completions : Nat := 0
  /-- History: the future was dropped while its node was in the queue. -/
  withdrawn : Bool := false
  deriving DecidableEq, Repr

structure Written (Byte : Type u) where
  /-- History: whose frame it is. -/
  index : Nat
  message : Message Byte
  ok : Bool
  deriving DecidableEq, Repr

/-- What `on_writeable()` holds between its critical sections. -/
structure Writing (Byte : Type u) where
  /-- History: whose frame it is. -/
  index : Nat
  message : Message Byte
  /-- what `lws_write()` returned -/
  result : Option Bool := none
  deriving DecidableEq, Repr

inductive Closing
  | idle
  /-- `close_connection()` has set `closed` and has not locked the queue yet. -/
  | marked
  | drained
  deriving DecidableEq, Repr

structure Connection (Byte : Type u) (Waker : Type v) where
  sends : Nat → SendFuture Byte Waker
  queue : List Nat := []
  inFlight : Option Nat := none
  closing : Bool := false
  closed : Bool := false
  close : Closing := .idle
  writing : Option (Writing Byte) := none
  /-- the wakers that a critical section has collected -/
  wakes : List (Nat × Waker) := []
  /-- History: the calls of `lws_write()`. -/
  written : List (Written Byte) := []
  /-- History: the sends in the order in which they were queued. -/
  queued : List Nat := []
  /-- History: the node of a dropped future was used. -/
  misused : Bool := false

inductive SendMove (Waker : Type v)
  | poll (index : Nat) (waker : Waker)
  /-- the critical section of the first poll -/
  | enqueue (index : Nat)
  | drop (index : Nat)
  /-- A posted close sets `closing`. -/
  | requestClose
  /-- `on_writeable()` is called -/
  | writeable
  | lwsWrite (ok : Bool)
  /-- the second critical section of `on_writeable()` -/
  | record
  /-- `close_connection()` sets `closed` -/
  | markClosed
  | drain
  /-- A collected waker is woken. -/
  | wake (position : Nat)
  deriving DecidableEq, Repr

namespace SendFuture

variable {Byte : Type u} {Waker : Type v}

def resolve (send : SendFuture Byte Waker) (result : SendResult) : SendFuture Byte Waker :=
  { send with result := some result, waiting := none, polling := false }

def pend (send : SendFuture Byte Waker) (waker : Option Waker) : SendFuture Byte Waker :=
  { send with waiting := waker, woken := false, polling := false }

def pollAgain (send : SendFuture Byte Waker) (waker : Waker) : SendFuture Byte Waker :=
  if send.node.complete then
    match send.node.error with
    | some errno => send.resolve (.error errno)
    | none => send.resolve .ready
  else { send with node := { send.node with waker := some waker } }.pend (some waker)

/-- The first poll copies the data into a frame. -/
def prepare (send : SendFuture Byte Waker) (waker : Waker) : SendFuture Byte Waker :=
  { send with
    node := { send.node with
      size := send.data.length
      frame := some send.data
      waker := some waker }
    waiting := none
    polling := true }

def complete (send : SendFuture Byte Waker) (error : Option Errno) : SendFuture Byte Waker :=
  { send with
    node := { send.node with error, complete := true }
    completions := send.completions + 1 }

end SendFuture

namespace Connection

variable {Byte : Type u} {Waker : Type v}
variable (connection : Connection Byte Waker)

def setSend (index : Nat) (send : SendFuture Byte Waker) : Connection Byte Waker :=
  { connection with sends := Function.update connection.sends index send }

def poll (index : Nat) (waker : Waker) : Connection Byte Waker :=
  let send := connection.sends index
  if send.started then connection.setSend index (send.pollAgain waker)
  else if connection.closed then connection.setSend index (send.resolve .closed)
  else connection.setSend index (send.prepare waker)

def enqueue (index : Nat) : Connection Byte Waker :=
  let send := connection.sends index
  if connection.closed then connection.setSend index (send.resolve .closed)
  else
    { connection.setSend index ({ send with started := true }.pend send.node.waker) with
      queue := connection.queue ++ [index]
      queued := connection.queued ++ [index] }

def drop (index : Nat) : Connection Byte Waker :=
  let send := connection.sends index
  if send.started then
    { connection.setSend index
        { send with dropped := true, withdrawn := decide (index ∈ connection.queue) } with
      queue := connection.queue.erase index
      inFlight := if connection.inFlight = some index then none else connection.inFlight }
  else connection.setSend index { send with dropped := true }

/-- The first critical section of `on_writeable()`. -/
def writeable : Connection Byte Waker :=
  if connection.closing then connection
  else
    match connection.queue with
    | [] => connection
    | index :: rest =>
      let send := connection.sends index
      { connection.setSend index { send with node := { send.node with frame := none } } with
        queue := rest
        inFlight := some index
        writing := some
          { index
            message :=
              { data := (send.node.frame.getD []).take send.node.size
                isText := send.node.isText } }
        misused := connection.misused || send.dropped }

/-- The second critical section of `on_writeable()`. -/
def record (ok : Bool) : Connection Byte Waker :=
  match connection.inFlight with
  | none => { connection with writing := none }
  | some index =>
    let send := connection.sends index
    { connection.setSend index (send.complete (if ok then none else some .eio)) with
      inFlight := none
      writing := none
      wakes := connection.wakes ++ (send.node.waker.map fun waker => (index, waker)).toList
      misused := connection.misused || send.dropped }

/-- `close_connection()` fails the front of the queue. -/
def fail (index : Nat) : Connection Byte Waker :=
  let send := connection.sends index
  { connection.setSend index (send.complete (some .enotconn)) with
    wakes := connection.wakes ++ (send.node.waker.map fun waker => (index, waker)).toList
    misused := connection.misused || send.dropped }

def failAll (connection : Connection Byte Waker) : List Nat → Connection Byte Waker
  | [] => { connection with queue := [], close := .drained }
  | index :: rest => failAll { connection.fail index with queue := rest } rest

def wake [DecidableEq Waker] (connection : Connection Byte Waker) (position : Nat) :
    Option (Connection Byte Waker) :=
  match connection.wakes[position]? with
  | none => none
  | some (index, waker) =>
    let send := connection.sends index
    some { connection.setSend index
        { send with woken := send.woken || send.waiting = some waker } with
      wakes := connection.wakes.eraseIdx position }

def step [DecidableEq Waker] (connection : Connection Byte Waker) :
    SendMove Waker → Option (Connection Byte Waker)
  | .poll index waker =>
    if (connection.sends index).dropped || (connection.sends index).polling then none
    else some (connection.poll index waker)
  | .enqueue index =>
    if (connection.sends index).polling then some (connection.enqueue index) else none
  | .drop index =>
    if (connection.sends index).dropped || (connection.sends index).polling then none
    else some (connection.drop index)
  | .requestClose => some { connection with closing := true }
  | .writeable =>
    match connection.writing with
    | none => some connection.writeable
    | some _ => none
  | .lwsWrite ok =>
    match connection.writing with
    | some { index, message, result := none } =>
      some { connection with
        writing := some { index, message, result := some ok }
        written := connection.written ++ [{ index, message, ok }] }
    | _ => none
  | .record =>
    match connection.writing with
    | some { result := some ok, .. } => some (connection.record ok)
    | _ => none
  | .markClosed =>
    match connection.close with
    | .marked => none
    | .idle | .drained => some { connection with closed := true, close := .marked }
  | .drain =>
    match connection.close with
    | .marked => some (connection.failAll connection.queue)
    | .idle | .drained => none
  | .wake position => connection.wake position

end Connection

def newSend {Byte : Type u} {Waker : Type v} (message : Message Byte) : SendFuture Byte Waker :=
  { data := message.data, node := { isText := message.isText } }

/-- The futures have been constructed and none has been polled. -/
def sendMachine {Byte : Type u} (Waker : Type v) [DecidableEq Waker]
    (messages : Nat → Message Byte) : Machine (Connection Byte Waker) (SendMove Waker) where
  initial := { sends := fun index => newSend (messages index) }
  step := Connection.step

end CoroRuntime.WebSocket
