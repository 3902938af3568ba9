import WindowRelay.Window.Flags

/-!
Contract: input sources as bit sets, and the input devices of the host.

Owns:
- the source classes and which sources count as a gamepad;
- the record of one input device.
-/

namespace WindowRelay

/-- The source bits that the host reports for a device or an event. No bit is dropped. -/
structure InputSource where
  bits : UInt32
deriving DecidableEq, Repr

namespace InputSource

def classPointer : UInt32 := 0x00000002
def classJoystick : UInt32 := 0x00000010
def gamepad : UInt32 := 0x00000401
def touchscreen : UInt32 := 0x00001002
def mouse : UInt32 := 0x00002002
def joystick : UInt32 := 0x01000010

/-- Every bit of the class is present. -/
def belongsTo (source : InputSource) (sourceClass : UInt32) : Bool :=
  coversBits source.bits sourceClass

def isGamepadLike (source : InputSource) : Bool :=
  source.belongsTo gamepad || source.belongsTo joystick

end InputSource

/-- An input device of the host; the descriptor is forwarded as the name of a gamepad. -/
structure InputDevice where
  id : Int32
  sources : InputSource
  descriptor : String
deriving DecidableEq, Repr

end WindowRelay
