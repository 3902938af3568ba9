import WindowRelay.Message.Environment
import WindowRelay.Numeric.Binary32
import WindowRelay.Window.Surface
import WindowRelay.Window.Id

/-!
Contract: the calls that a session makes into the window manager.

Owns:
- one constructor per call, and the axes of a gamepad.

Does not own: the written form of a call (`Wire.Call`).
-/

namespace WindowRelay

/-- The ten axes of a gamepad. -/
structure GamepadAxes where
  x : Binary32
  y : Binary32
  z : Binary32
  rx : Binary32
  ry : Binary32
  rz : Binary32
  leftTrigger : Binary32
  rightTrigger : Binary32
  hatX : Binary32
  hatY : Binary32
deriving DecidableEq, Repr

namespace GamepadAxes

/-- The axes in the order in which they are relayed. -/
def toList (axes : GamepadAxes) : List Binary32 :=
  [axes.x, axes.y, axes.z, axes.rx, axes.ry, axes.rz, axes.leftTrigger, axes.rightTrigger,
    axes.hatX, axes.hatY]

def ofList? : List Binary32 → Option GamepadAxes
  | [x, y, z, rx, ry, rz, leftTrigger, rightTrigger, hatX, hatY] =>
    some ⟨x, y, z, rx, ry, rz, leftTrigger, rightTrigger, hatX, hatY⟩
  | _ => none

theorem ofList?_toList (axes : GamepadAxes) : ofList? axes.toList = some axes := rfl

end GamepadAxes

/-- A call into the window manager. Counts and indices are unsigned 64-bit numbers. -/
inductive Call where
  /-- a backing appeared, changed, or went away (`none`) -/
  | surfaceChanged (window : WindowId) (surface : Option Surface.Handle) (client : Bool)
  | keyboard (window : WindowId) (action : UInt32) (keycode : Int32) (metaState : UInt32)
  | motion (window : WindowId) (action : UInt32) (x y : Coordinate) (buttons : UInt32)
      (scroll : Int32)
  | desktopChanged (width height : Int32)
  | configChanged (dpi : UInt32)
  | gamepadCount (count : UInt64)
  | gamepadData (index : UInt64) (device : Int32) (name : String)
  | gamepadAxis (device : Int32) (axes : GamepadAxes)
  | gamepadButton (device button : Int32) (value : UInt32)
  | windowClose (window : WindowId)
  | systemCommand (window : WindowId) (command : UInt32)
  | imeStart
  | imeSetText (text : String) (length : UInt64) (cursor : Int32)
  | imeFinish
  | imeCancel
  | clearMetaKeyStates (states : UInt32)
  | clipboardUpdate (flags : UInt32) (mimeTypes : Option (List String))
  | runCommandLine (commandLine : String) (environment : Option Environment)
  | runCommandArray (arguments : List String) (environment : Option Environment)
deriving DecidableEq, Repr

end WindowRelay
