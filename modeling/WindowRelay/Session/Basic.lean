import WindowRelay.Clipboard.Report
import WindowRelay.Config.Basic
import WindowRelay.Input.Composition
import WindowRelay.Input.Gamepads
import WindowRelay.Message.Inbound
import WindowRelay.Startup.Gate
import WindowRelay.Tree.Event

/-!
Contract: one session between the window manager and the host.

Owns:
- the state of a session and the tasks that change it;
- what a task sends out, and the delivery of calls over a channel that may be closed.

Does not own: the effect of each task (`Session.Dispatch`).
-/

namespace WindowRelay

/-- The directory in which a fresh installation is recognised: whether it holds the marker, and
whether the marker can be written. -/
structure PrefixDirectory where
  marked : Bool
  writable : Bool
deriving DecidableEq, Repr

/-- The state of a session. -/
structure Session where
  config : Config := {}
  desk : Desk := {}
  router : Router := {}
  /-- the input method is composing a text -/
  composing : Bool := false
  gate : Gate := {}
  /-- the clip of the last poll -/
  snapshot : Option Clip := none
  prefixDirectory : Option PrefixDirectory := none
  /-- somebody receives the calls -/
  callsOpen : Bool := true
deriving DecidableEq

/-- Work for a session. -/
inductive Task where
  | manager (event : ManagerEvent)
  | shell (command : ShellCommand)
  | host (event : HostEvent)
  | shutdown
deriving DecidableEq, Repr

/-- What a task gives: the session afterwards, the calls and log lines in order, and whether the
session goes on. -/
structure Reaction where
  session : Session
  calls : List Call := []
  notices : List Notice := []
  running : Bool := true
deriving DecidableEq

namespace Session

/-- A fresh session for a configuration. -/
def fresh (config : Config) (prefixDirectory : Option PrefixDirectory) : Session where
  config := config
  desk := Desk.fresh config.display.reserveFrontView
  router :=
    { wheelStep := config.input.wheelStep
      horizontalFlag := config.input.horizontalScrollFlag }
  prefixDirectory := prefixDirectory

def tree (session : Session) : Tree :=
  session.desk.tree

def scene (session : Session) : Scene :=
  session.desk.scene

def withScene (session : Session) (scene : Scene) : Session :=
  { session with desk := { session.desk with scene } }

/-- The URI that marks clips published by this session. -/
def ownUri (session : Session) : Option String :=
  session.config.clipboard.providerAuthority.map Clipboard.ownUri

/-- Calls reach somebody only while the channel is open. -/
def deliver (session : Session) (calls : List Call) : List Call :=
  if session.callsOpen then calls else []

/-- Submit a command request to the gate. -/
def submit (session : Session) (request : CommandRequest) : Session × List Call × Submitted :=
  let (gate, calls, outcome) := session.gate.submit request
  ({ session with gate }, session.deliver calls, outcome)

/-- Text of the clipboard for the window manager. -/
def clipboardText (session : Session) (flags : UInt32) : String :=
  Clipboard.text session.snapshot flags

end Session

end WindowRelay
