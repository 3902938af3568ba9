import WindowRelay.Session.Dispatch

/-!
Contract: a session together with the queue of its tasks.

Owns:
- the routing of messages: command requests go straight to the gate, everything else waits in
  the queue;
- dispatching the queue, as far as the session goes on.

Going straight to the gate keeps command requests in their order of arrival, however long the
queue is.
-/

namespace WindowRelay

/-- A session and its queue; the queue is gone once nobody takes tasks from it. -/
structure Relay where
  session : Session := {}
  tasks : Option (List Task) := some []
deriving DecidableEq

/-- What dispatching some tasks gives: the session afterwards, the tasks that are left, whether the
session went on after each task, and all that was sent. -/
structure Pumped where
  session : Session
  rest : List Task
  running : List Bool := []
  calls : List Call := []
  notices : List Notice := []
deriving DecidableEq

namespace Session

/-- Dispatch tasks until none is left or the session ends. -/
def pump (session : Session) : List Task → Except Interruption Pumped
  | [] => .ok { session, rest := [] }
  | task :: rest => do
    let reaction ← session.dispatch task
    if reaction.running then
      let later ← (reaction.session.pump rest).mapError (·.behind reaction.calls)
      pure
        { later with
          running := true :: later.running
          calls := reaction.calls ++ later.calls
          notices := reaction.notices ++ later.notices }
    else
      pure
        { session := reaction.session, rest, running := [false], calls := reaction.calls,
          notices := reaction.notices }

end Session

namespace Relay

/-- Post a task; the answer is whether there still is a queue. -/
def post (relay : Relay) (task : Task) : Relay × Bool :=
  match relay.tasks with
  | some tasks => ({ relay with tasks := some (tasks ++ [task]) }, true)
  | none => (relay, false)

/-- Submit a command request to the gate of the session. -/
def submit (relay : Relay) (request : CommandRequest) : Relay × List Call × Submitted :=
  let (session, calls, outcome) := relay.session.submit request
  ({ relay with session }, calls, outcome)

/-- Hand a message over. The answer is false once nobody takes tasks. -/
def route (relay : Relay) : Inbound → Relay × List Call × Bool
  | .manager event =>
    let (after, posted) := relay.post (.manager event)
    (after, [], posted)
  | .host event =>
    let (after, posted) := relay.post (.host event)
    (after, [], posted)
  | .shell (.runCommandLine commandLine environment) =>
    let (after, calls, _) := relay.submit (.line commandLine environment)
    (after, calls, true)
  | .shell (.runCommandArray arguments environment) =>
    let (after, calls, _) := relay.submit (.array arguments environment)
    (after, calls, true)
  | .shell .closeDesktop =>
    let (after, posted) := relay.post (.shell .closeDesktop)
    (after, [], posted)

/-- Dispatch what waits in the queue. -/
def pump (relay : Relay) : Except Interruption (Relay × Pumped) := do
  let pumped ← relay.session.pump (relay.tasks.getD [])
  pure ({ session := pumped.session, tasks := relay.tasks.map fun _ => pumped.rest }, pumped)

/-- Run until the queue is empty or the session ends; what is left is lost, and a new queue takes
the place of the old one. -/
def run (relay : Relay) : Except Interruption (Relay × Pumped) := do
  let (after, pumped) ← relay.pump
  pure ({ after with tasks := some [] }, pumped)

/-- The task by which a message is dispatched directly. -/
def taskOf : Inbound → Task
  | .manager event => .manager event
  | .shell command => .shell command
  | .host event => .host event

end Relay

end WindowRelay
