import WindowRelay.Message.Call
import WindowRelay.Text.Blank

/-!
Contract: the gate that holds command requests back until the desktop exists.

Owns:
- command requests, and which of them are blank;
- submission, the opening of the gate, and the merge of the two queues by arrival.

Lines and argument lists wait in queues of their own, each entry with its arrival number.
-/

namespace WindowRelay

/-- A request to run a command. -/
inductive CommandRequest where
  | line (commandLine : String) (environment : Option Environment)
  | array (arguments : List String) (environment : Option Environment)
deriving DecidableEq, Repr

namespace CommandRequest

/-- A request that would run nothing. -/
def isBlank : CommandRequest → Bool
  | line commandLine _ => Text.isBlank commandLine
  | array arguments _ => arguments.isEmpty

def isLine : CommandRequest → Bool
  | line _ _ => true
  | array _ _ => false

def call : CommandRequest → Call
  | line commandLine environment => .runCommandLine commandLine environment
  | array arguments environment => .runCommandArray arguments environment

end CommandRequest

/-- What became of a request. -/
inductive Submitted where
  | forwarded
  | queued
  | dropped
deriving DecidableEq, Repr

/-- The gate. `arrivals` counts the requests that had to wait. -/
structure Gate where
  ready : Bool := false
  arrivals : Nat := 0
  lines : List (Nat × CommandRequest) := []
  arrays : List (Nat × CommandRequest) := []
deriving DecidableEq, Repr

namespace Gate

/-- Forward a request through an open gate, or let it wait; blank requests are dropped. -/
def submit (gate : Gate) (request : CommandRequest) : Gate × List Call × Submitted :=
  if request.isBlank then (gate, [], .dropped)
  else if gate.ready then (gate, [request.call], .forwarded)
  else
    let entry := (gate.arrivals + 1, request)
    let counted := { gate with arrivals := gate.arrivals + 1 }
    if request.isLine then
      ({ counted with lines := gate.lines ++ [entry] }, [], .queued)
    else
      ({ counted with arrays := gate.arrays ++ [entry] }, [], .queued)

/-- The waiting requests in the order of their arrival. -/
def waiting (gate : Gate) : List CommandRequest :=
  (List.merge gate.lines gate.arrays fun line array => line.1 < array.1).map Prod.snd

/-- Open the gate and let the waiting requests through. An open gate stays as it is. -/
def unlock (gate : Gate) : Gate × List Call :=
  if gate.ready then (gate, [])
  else
    ({ gate with ready := true, lines := [], arrays := [] },
      gate.waiting.map CommandRequest.call)

end Gate

end WindowRelay
