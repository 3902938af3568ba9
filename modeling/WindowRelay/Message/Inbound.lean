import WindowRelay.Clipboard.Clip
import WindowRelay.Geometry.Rect
import WindowRelay.Input.Sample
import WindowRelay.Message.Environment
import WindowRelay.Window.Icon
import WindowRelay.Window.Surface

/-!
Contract: everything that a peer may tell a session.

Owns:
- events of the window manager, commands of the host shell, events of the host's user interface.

Does not own: the written form of a message (`Wire.Inbound`) and its effect (`Session`).
-/

namespace WindowRelay

/-- An event of the window manager. -/
inductive ManagerEvent where
  /-- the desktop window exists; `scaling` selects how it is scaled -/
  | createDesktop (window : WindowId) (scaling : UInt32)
  | createWindow (window : WindowId) (accelerated : Bool) (parent : WindowId) (scale : Binary32)
      (process : UInt32)
  | destroyWindow (window : WindowId)
  | setParent (window parent : WindowId) (scale : Binary32) (process : UInt32)
  | setPosition (window : WindowId) (flags insertAfter : UInt32) (owner : WindowId)
      (style : UInt32) (windowRect clientRect visibleRect : Rect)
  | setFocus (window : WindowId)
  | setText (window : WindowId) (text : String)
  /-- no pixels clear the icon -/
  | setIcon (window : WindowId) (width height : UInt32) (pixels : Option (List UInt32))
  | setCursor (cursor : CursorRequest)
  | closeWindow (window : WindowId)
  | pollClipboard
  | setClipboard (text : String)
deriving DecidableEq, Repr

/-- A command of the host shell. -/
inductive ShellCommand where
  | runCommandLine (commandLine : String) (environment : Option Environment)
  | runCommandArray (arguments : List String) (environment : Option Environment)
  | closeDesktop
deriving DecidableEq, Repr

/-- An event of the host's user interface. -/
inductive HostEvent where
  | surfaceAvailable (window : WindowId) (client : Bool) (surface : Surface.Handle)
  | surfaceDestroyed (window : WindowId) (client : Bool)
  | viewVisibility (window : WindowId) (client visible : Bool)
  /-- the size in host pixels -/
  | desktopResized (width height : Int32)
  | motion (sample : MotionSample)
  | key (sample : KeySample)
  | imeCompose (text : String) (cursor : Int32)
  | imeCommit (text : String) (cursor : Int32) (keys : Option (List KeySample))
  | imeFinish
  | clearMetaKeyStates (states : UInt32)
  | activityStarted
  | activityStopped
  | deviceAdded (device : Int32) (source : UInt32) (descriptor : String)
  | clipboardChanged (clip : Option Clip)
deriving DecidableEq, Repr

/-- A message, by the channel on which it comes. -/
inductive Inbound where
  | manager (event : ManagerEvent)
  | shell (command : ShellCommand)
  | host (event : HostEvent)
deriving DecidableEq, Repr

end WindowRelay
