import CoroRuntime.Combinators.Calls

/-! # The poll of a WebSocket receive

`ReceiveFuture::poll` of `src/io/ws_stream.cpp`, as one call with what it finds in the state of
the connection. It returns no Error: it throws.
-/

namespace CoroRuntime.WebSocket.Polling

open Future Combinators

inductive Thrown
  | systemError (code : Nat) (what : String)
  | runtimeError (what : String)
  deriving DecidableEq, Repr

variable {Data Waker : Type}

structure Message (Data : Type) where
  data : Data
  isText : Bool
  isFinal : Bool
  deriving DecidableEq, Repr

structure ReceivedMessage (Data : Type) extends Message Data where
  /-- zero for none -/
  error : Nat

/-- The members of `ConnectionState` that a receive looks at. -/
structure ReceiveState (Data Waker : Type) where
  ready : List (ReceivedMessage Data) := []
  closed : Bool := false
  waker : Option Waker := none

def ReceiveFuture.poll (waker : Waker) (state : ReceiveState Data Waker) :
    Call Thrown (Message Data) × ReceiveState Data Waker :=
  match state.ready with
  | message :: rest =>
    (if message.error ≠ 0 then .error (.systemError message.error "WsStream::receive")
      else .ok (.ready message.toMessage),
    { state with ready := rest })
  | [] =>
    if state.closed then
      (.error (.runtimeError "WsStream::receive: connection closed"), state)
    else (.ok .pending, { state with waker := some waker })

end CoroRuntime.WebSocket.Polling
