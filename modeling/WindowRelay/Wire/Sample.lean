import WindowRelay.Input.Sample
import WindowRelay.Wire.Record

/-!
Contract: the written form of pointer and key samples.

Owns:
- motion samples with their axis readings, and key samples, both ways.

An axis is written as its name. It may also be read from an object with that one name, whose
value then is nothing: `null`, or in a message an empty object too.
-/

namespace WindowRelay

namespace Wire

def axisName : JoystickAxis → String
  | .x => "X"
  | .y => "Y"
  | .z => "Z"
  | .rx => "Rx"
  | .ry => "Ry"
  | .rz => "Rz"
  | .leftTrigger => "LTrigger"
  | .rightTrigger => "RTrigger"
  | .brake => "Brake"
  | .gas => "Gas"
  | .hatX => "HatX"
  | .hatY => "HatY"

def axisOfName? (name : String) : Option JoystickAxis :=
  JoystickAxis.all.find? fun axis => axisName axis == name

def toAxis? (inMessage : Bool) : Json → Option JoystickAxis
  | .string name => axisOfName? name
  | .object [(name, .null)] => axisOfName? name
  | .object [(name, .object [])] => if inMessage then axisOfName? name else none
  | _ => none

def readingNames : List String := ["axis", "value", "flat"]

def ofReading (reading : AxisReading) : Json :=
  .object
    [("axis", .string (axisName reading.axis)), ("value", .ofBinary32 reading.value),
      ("flat", .ofBinary32 reading.flat)]

def toReading? (inMessage : Bool) (json : Json) : Option AxisReading := do
  match ← slots? readingNames json with
  | [axis, value, flat] =>
    pure
      { axis := ← axis.required? (toAxis? inMessage)
        value := ← value.required? Json.toBinary32?
        flat := ← flat.defaulted? Binary32.zero Json.toBinary32? }
  | _ => none

def motionNames : List String :=
  ["window_id", "client", "device_id", "source", "action", "x", "y", "raw_x", "raw_y",
    "button_state", "hscroll", "vscroll", "axes"]

def motionFields (sample : MotionSample) : List (String × Json) :=
  [("window_id", .ofUInt32 sample.window), ("client", .bool sample.client),
    ("device_id", .ofInt32 sample.device), ("source", .ofUInt32 sample.source),
    ("action", .ofUInt32 sample.action), ("x", .ofBinary32 sample.x), ("y", .ofBinary32 sample.y),
    ("raw_x", .ofBinary32 sample.rawX), ("raw_y", .ofBinary32 sample.rawY),
    ("button_state", .ofUInt32 sample.buttons), ("hscroll", .ofBinary32 sample.horizontalScroll),
    ("vscroll", .ofBinary32 sample.verticalScroll), ("axes", .ofList ofReading sample.axes)]

def toMotion? (inMessage : Bool) (json : Json) : Option MotionSample := do
  match ← slots? motionNames json with
  | [window, client, device, source, action, x, y, rawX, rawY, buttons, horizontal, vertical,
      axes] =>
    pure
      { window := ← window.required? Json.toUInt32?
        client := ← client.defaulted? false Json.toBool?
        device := ← device.defaulted? 0 Json.toInt32?
        source := ← source.required? Json.toUInt32?
        action := ← action.required? Json.toUInt32?
        x := ← x.required? Json.toBinary32?
        y := ← y.required? Json.toBinary32?
        rawX := ← rawX.defaulted? Binary32.zero Json.toBinary32?
        rawY := ← rawY.defaulted? Binary32.zero Json.toBinary32?
        buttons := ← buttons.defaulted? 0 Json.toUInt32?
        horizontalScroll := ← horizontal.defaulted? Binary32.zero Json.toBinary32?
        verticalScroll := ← vertical.defaulted? Binary32.zero Json.toBinary32?
        axes := ← axes.defaulted? [] (Json.toList? (toReading? inMessage)) }
  | _ => none

def keyNames : List String :=
  ["window_id", "device_id", "source", "action", "keycode", "meta_state"]

def keyFields (sample : KeySample) : List (String × Json) :=
  [("window_id", .ofUInt32 sample.window), ("device_id", .ofInt32 sample.device),
    ("source", .ofUInt32 sample.source), ("action", .ofUInt32 sample.action),
    ("keycode", .ofInt32 sample.keycode), ("meta_state", .ofUInt32 sample.metaState)]

def ofKey (sample : KeySample) : Json := .object (keyFields sample)

def toKey? (json : Json) : Option KeySample := do
  match ← slots? keyNames json with
  | [window, device, source, action, keycode, metaState] =>
    pure
      { window := ← window.required? Json.toUInt32?
        device := ← device.defaulted? 0 Json.toInt32?
        source := ← source.required? Json.toUInt32?
        action := ← action.required? Json.toUInt32?
        keycode := ← keycode.required? Json.toInt32?
        metaState := ← metaState.defaulted? 0 Json.toUInt32? }
  | _ => none

end Wire

end WindowRelay
