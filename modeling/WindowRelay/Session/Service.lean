import WindowRelay.Session.Relay
import WindowRelay.Wire.Peer

/-!
Contract: a session that serves one peer over a stream of bytes.

Owns:
- handing over a message and dispatching what it queued, before the next message is read;
- the end of the service: the session stops, or a layout leaves the coordinates;
- the file at the path of the socket.

Does not own: the transport of the bytes (`Main`).
-/

namespace WindowRelay

/-- A session in service, and the calls that it made so far. -/
structure Service where
  relay : Relay := {}
  calls : List Call := []
  /-- the session has ended -/
  stopped : Bool := false
  fault : Option Overflow := none
deriving DecidableEq

namespace Service

/-- A service without history. -/
def start (session : Session) : Service :=
  { relay := { session } }

/-- Hand over a message and dispatch the queue. Nobody takes tasks once the session has ended. -/
def deliver (service : Service) (message : Inbound) : Service × Bool :=
  let (relay, direct, accepted) := service.relay.route message
  let sent := service.calls ++ direct
  if accepted then
    match relay.pump with
    | .error interruption =>
      ({ relay := { relay with tasks := none }, calls := sent ++ interruption.sent,
         stopped := true, fault := some interruption.cause }, false)
    | .ok (after, pumped) =>
      let running := pumped.running.all id
      let relay := if running then after else { after with tasks := none }
      ({ service with
           relay
           calls := sent ++ pumped.calls
           stopped := service.stopped || !running }, true)
  else ({ service with relay, calls := sent }, false)

/-- Serve what a stream says. -/
def feed (service : Service) (stream : List UInt8) : Service × Wire.Ending :=
  Wire.relayAll deliver service stream

/-- The calls made so far, taken out. -/
def takeCalls (service : Service) : Service × List Call :=
  ({ service with calls := [] }, service.calls)

end Service

/-- Whether a file stands at the path of the socket. -/
structure SocketPlace where
  occupied : Bool
deriving DecidableEq, Repr

namespace SocketPlace

/-- Binding takes the place, whether a stale file stood there or not. -/
def bind (_place : SocketPlace) : SocketPlace := ⟨true⟩

/-- Shutting down removes the file. -/
def shutDown (_place : SocketPlace) : SocketPlace := ⟨false⟩

end SocketPlace

end WindowRelay
