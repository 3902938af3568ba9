import WindowRelay.Numeric.Binary32
import WindowRelay.Window.Id

/-!
Contract: pointer and key events as a host view receives them.

Owns:
- the records of a motion sample, of one joystick axis and of a key sample.

Does not own: their written form (`Wire.Sample`) and their routing (`Input.Router`).
-/

namespace WindowRelay

/-- A joystick axis. -/
inductive JoystickAxis where
  | x
  | y
  | z
  | rx
  | ry
  | rz
  | leftTrigger
  | rightTrigger
  | brake
  | gas
  | hatX
  | hatY
deriving DecidableEq, Repr

def JoystickAxis.all : List JoystickAxis :=
  [x, y, z, rx, ry, rz, leftTrigger, rightTrigger, brake, gas, hatX, hatY]

/-- The value of one axis, and the range around the centre that counts as rest. -/
structure AxisReading where
  axis : JoystickAxis
  value : Binary32
  flat : Binary32 := Binary32.zero
deriving DecidableEq, Repr

/-- A motion event delivered to one host view. -/
structure MotionSample where
  window : WindowId
  /-- delivered to the client view rather than to the whole view -/
  client : Bool := false
  device : Int32 := 0
  source : UInt32
  action : UInt32
  /-- the position in the view -/
  x : Binary32
  y : Binary32
  /-- the position on the device -/
  rawX : Binary32 := Binary32.zero
  rawY : Binary32 := Binary32.zero
  buttons : UInt32 := 0
  horizontalScroll : Binary32 := Binary32.zero
  verticalScroll : Binary32 := Binary32.zero
  axes : List AxisReading := []
deriving DecidableEq, Repr

/-- A key event delivered to one host view. -/
structure KeySample where
  window : WindowId
  device : Int32 := 0
  source : UInt32
  action : UInt32
  keycode : Int32
  metaState : UInt32 := 0
deriving DecidableEq, Repr

end WindowRelay
