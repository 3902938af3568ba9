import WindowRelay.Input.Source
import WindowRelay.Message.Call
import WindowRelay.Text.Ascii

/-!
Contract: enumeration of the connected gamepads.

Owns:
- which devices count, each id once, and how many they are;
- the cut of a descriptor to the longest admitted name;
- the calls of an enumeration.

The place of the cut is searched backwards through the bytes of the descriptor. The search could run
past their beginning, and the cut could fall inside a character: both are faults of their own here.
-/

namespace WindowRelay

namespace Gamepads

/-! ## Names -/

/-- The longest name that the window manager accepts, in bytes. -/
def longestName : Nat := 255

/-- What would stop the cut of a descriptor. -/
inductive CutFault where
  | pastBeginning
  | insideCharacter
deriving DecidableEq, Repr

/-- A character begins at this byte: it does not continue one. -/
def isLead (byte : UInt8) : Bool :=
  byte < 0x80 || 0xc0 ≤ byte

/-- The place is in front of a character or at one of the ends. -/
def isBoundary (bytes : List UInt8) (place : Nat) : Bool :=
  place == 0 ||
    match bytes[place]? with
    | some byte => isLead byte
    | none => place == bytes.length

/-- The last boundary that is not behind a place. -/
def retreat (bytes : List UInt8) : Nat → Except CutFault Nat
  | 0 => if isBoundary bytes 0 then .ok 0 else .error .pastBeginning
  | place + 1 => if isBoundary bytes (place + 1) then .ok (place + 1) else retreat bytes place

/-- The text in front of a place. -/
def beginning (bytes : List UInt8) (place : Nat) : Except CutFault String :=
  if isBoundary bytes place then
    match Text.ofBytes? (bytes.take place) with
    | some text => .ok text
    | none => .error .insideCharacter
  else .error .insideCharacter

/-- A descriptor, cut to the longest name if it is longer. -/
def cut (descriptor : String) : Except CutFault String :=
  let bytes := Text.bytes descriptor
  if bytes.length ≤ longestName then .ok descriptor
  else do
    let place ← retreat bytes longestName
    beginning bytes place

/-- The name of a gamepad. -/
def name (descriptor : String) : String :=
  match cut descriptor with
  | .ok name => name
  | .error _ => ""

/-! ## Enumeration -/

/-- The devices without those whose id occurred before. -/
def firstOfEachId (devices : List InputDevice) : List InputDevice :=
  devices.foldl
    (fun kept device => if kept.any (·.id == device.id) then kept else kept ++ [device]) []

/-- The gamepads among the devices, each id once, in the order of their first record. -/
def among (devices : List InputDevice) : List InputDevice :=
  firstOfEachId (devices.filter (·.sources.isGamepadLike))

/-- How many gamepads are reported. -/
def count (devices : List InputDevice) : Nat :=
  (among devices).length

/-- The call that describes one gamepad. -/
def describe (pad : InputDevice × Nat) : Call :=
  .gamepadData (UInt64.ofNat pad.2) pad.1.id (name pad.1.descriptor)

/-- The calls of an enumeration; none if there is no gamepad. -/
def enumerate (devices : List InputDevice) : List Call :=
  match among devices with
  | [] => []
  | pads => .gamepadCount (UInt64.ofNat pads.length) :: pads.zipIdx.map describe

end Gamepads

end WindowRelay
