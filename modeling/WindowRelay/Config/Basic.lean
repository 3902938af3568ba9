/-!
Contract: the configuration of a session.

Owns:
- the sections, their fields and their defaults;
- the path of the socket, and the text that is written for a missing configuration.

Does not own: the reading of a configuration text (`Config.Reader`).
-/

namespace WindowRelay

namespace Config

structure Display where
  /-- the density of the host screen in dots per inch -/
  startupDpi : UInt32 := 160
  /-- keep a reserved content object at the front of every client container -/
  reserveFrontView : Bool := true
deriving DecidableEq, Repr

structure Input where
  /-- the scroll amount of one wheel notch -/
  wheelStep : Int32 := 120
  /-- the bit that marks horizontal scrolls -/
  horizontalScrollFlag : UInt32 := 0x10000
deriving DecidableEq, Repr

structure Startup where
  desktopName : String := "shell"
  /-- commands that run once in a fresh prefix directory -/
  firstRunCommands : List (List String) := []
  prefixDirectory : Option String := none
deriving DecidableEq, Repr

structure Clipboard where
  /-- the content authority that marks published clips -/
  providerAuthority : Option String := none
deriving DecidableEq, Repr

structure Ipc where
  socketPath : Option String := none
deriving DecidableEq, Repr

structure Logging where
  filter : String := "nwm_bridge=debug,info"
deriving DecidableEq, Repr

end Config

/-- The configuration of a session. -/
structure Config where
  display : Config.Display := {}
  input : Config.Input := {}
  startup : Config.Startup := {}
  clipboard : Config.Clipboard := {}
  ipc : Config.Ipc := {}
  logging : Config.Logging := {}
deriving DecidableEq, Repr

namespace Config

/-- The name of the socket in the runtime directory. -/
def socketName : String := "nwm-bridge.sock"

/-- A name inside a directory; the separator is not doubled, and the empty directory adds none. -/
def inDirectory (directory name : String) : String :=
  if directory.isEmpty || directory.endsWith "/" then directory ++ name
  else directory ++ "/" ++ name

/-- The path of the socket: as configured, else in the runtime directory. -/
def Ipc.path (ipc : Ipc) (runtimeDirectory : String) : String :=
  ipc.socketPath.getD (inDirectory runtimeDirectory socketName)

end Config

end WindowRelay
