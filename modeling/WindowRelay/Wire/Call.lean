import WindowRelay.Json.Printer
import WindowRelay.Json.Reader
import WindowRelay.Message.Call
import WindowRelay.Wire.Value

/-!
Contract: the written form of calls into the window manager.

Owns:
- calls as JSON values and as payloads, both ways.

A call is one object with its name under `type`, and all of its payload must be readable.
-/

namespace WindowRelay

namespace Wire

/-- The deepest nesting of containers in a payload. -/
def deepest : Nat := 127

def ofAxes (axes : GamepadAxes) : Json :=
  .ofList .ofBinary32 axes.toList

def toAxes? (json : Json) : Option GamepadAxes :=
  (json.toList? Json.toBinary32?).bind GamepadAxes.ofList?

/-- The names of the calls, in the order of their numbers. -/
def callNames : List String :=
  ["SurfaceChanged", "Keyboard", "Motion", "DesktopChanged", "ConfigChanged", "GamepadCount",
    "GamepadData", "GamepadAxis", "GamepadButton", "WindowClose", "SysCommand", "ImeStart",
    "ImeSetText", "ImeFinish", "ImeCancel", "ClearMetaKeyStates", "ClipdataUpdate",
    "RunCommandLine", "RunCommandArray"]

def surfaceChangedNames : List String := ["window_id", "surface", "client"]
def keyboardNames : List String := ["window_id", "action", "keycode", "meta_state"]
def motionCallNames : List String := ["window_id", "action", "x", "y", "buttons", "scroll"]
def sizeNames : List String := ["width", "height"]
def gamepadDataNames : List String := ["index", "device_id", "name"]
def gamepadAxisNames : List String := ["device_id", "axes"]
def gamepadButtonNames : List String := ["device_id", "button", "value"]
def systemCommandNames : List String := ["window_id", "command"]
def imeTextNames : List String := ["text", "length", "cursor"]
def clipboardUpdateNames : List String := ["flags", "mime_types"]
def commandLineNames : List String := ["cmdline", "env"]
def commandArrayNames : List String := ["args", "env"]

def commandLineFields (commandLine : String) (environment : Option Environment) :
    List (String × Json) :=
  [("cmdline", .string commandLine), ("env", .ofOption ofEnvironment environment)]

def commandArrayFields (arguments : List String) (environment : Option Environment) :
    List (String × Json) :=
  [("args", .ofList .string arguments), ("env", .ofOption ofEnvironment environment)]

def ofCall : Call → Json
  | .surfaceChanged window surface client =>
    tagged "type" "SurfaceChanged"
      [("window_id", .ofUInt32 window), ("surface", .ofOption .ofUInt64 surface),
        ("client", .bool client)]
  | .keyboard window action keycode metaState =>
    tagged "type" "Keyboard"
      [("window_id", .ofUInt32 window), ("action", .ofUInt32 action),
        ("keycode", .ofInt32 keycode), ("meta_state", .ofUInt32 metaState)]
  | .motion window action x y buttons scroll =>
    tagged "type" "Motion"
      [("window_id", .ofUInt32 window), ("action", .ofUInt32 action), ("x", .ofInt32 x),
        ("y", .ofInt32 y), ("buttons", .ofUInt32 buttons), ("scroll", .ofInt32 scroll)]
  | .desktopChanged width height =>
    tagged "type" "DesktopChanged" [("width", .ofInt32 width), ("height", .ofInt32 height)]
  | .configChanged dpi => tagged "type" "ConfigChanged" [("dpi", .ofUInt32 dpi)]
  | .gamepadCount count => tagged "type" "GamepadCount" [("count", .ofUInt64 count)]
  | .gamepadData index device name =>
    tagged "type" "GamepadData"
      [("index", .ofUInt64 index), ("device_id", .ofInt32 device), ("name", .string name)]
  | .gamepadAxis device axes =>
    tagged "type" "GamepadAxis" [("device_id", .ofInt32 device), ("axes", ofAxes axes)]
  | .gamepadButton device button value =>
    tagged "type" "GamepadButton"
      [("device_id", .ofInt32 device), ("button", .ofInt32 button), ("value", .ofUInt32 value)]
  | .windowClose window => tagged "type" "WindowClose" [("window_id", .ofUInt32 window)]
  | .systemCommand window command =>
    tagged "type" "SysCommand" [("window_id", .ofUInt32 window), ("command", .ofUInt32 command)]
  | .imeStart => tagged "type" "ImeStart" []
  | .imeSetText text length cursor =>
    tagged "type" "ImeSetText"
      [("text", .string text), ("length", .ofUInt64 length), ("cursor", .ofInt32 cursor)]
  | .imeFinish => tagged "type" "ImeFinish" []
  | .imeCancel => tagged "type" "ImeCancel" []
  | .clearMetaKeyStates states =>
    tagged "type" "ClearMetaKeyStates" [("states", .ofUInt32 states)]
  | .clipboardUpdate flags mimeTypes =>
    tagged "type" "ClipdataUpdate"
      [("flags", .ofUInt32 flags), ("mime_types", .ofOption (.ofList .string) mimeTypes)]
  | .runCommandLine commandLine environment =>
    tagged "type" "RunCommandLine" (commandLineFields commandLine environment)
  | .runCommandArray arguments environment =>
    tagged "type" "RunCommandArray" (commandArrayFields arguments environment)

/-- The fields of a command line request. -/
def toCommandLine? (fields : Json) : Option (String × Option Environment) := do
  match ← slots? commandLineNames fields with
  | [commandLine, environment] =>
    pure (← commandLine.required? Json.toText?, ← environment.optional? toEnvironment?)
  | _ => none

/-- The fields of an argument list request. -/
def toCommandArray? (fields : Json) : Option (List String × Option Environment) := do
  match ← slots? commandArrayNames fields with
  | [arguments, environment] =>
    pure
      (← arguments.required? (Json.toList? Json.toText?), ← environment.optional? toEnvironment?)
  | _ => none

/-- A call by its name and its other fields. -/
def toCallNamed? (name : String) (fields : Json) : Option Call := do
  match name with
  | "SurfaceChanged" =>
    match ← slots? surfaceChangedNames fields with
    | [window, surface, client] =>
      pure
        (.surfaceChanged (← window.required? Json.toUInt32?)
          (← surface.optional? Json.toUInt64?) (← client.required? Json.toBool?))
    | _ => none
  | "Keyboard" =>
    match ← slots? keyboardNames fields with
    | [window, action, keycode, metaState] =>
      pure
        (.keyboard (← window.required? Json.toUInt32?) (← action.required? Json.toUInt32?)
          (← keycode.required? Json.toInt32?) (← metaState.required? Json.toUInt32?))
    | _ => none
  | "Motion" =>
    match ← slots? motionCallNames fields with
    | [window, action, x, y, buttons, scroll] =>
      pure
        (.motion (← window.required? Json.toUInt32?) (← action.required? Json.toUInt32?)
          (← x.required? Json.toInt32?) (← y.required? Json.toInt32?)
          (← buttons.required? Json.toUInt32?) (← scroll.required? Json.toInt32?))
    | _ => none
  | "DesktopChanged" =>
    match ← slots? sizeNames fields with
    | [width, height] =>
      pure (.desktopChanged (← width.required? Json.toInt32?) (← height.required? Json.toInt32?))
    | _ => none
  | "ConfigChanged" =>
    match ← slots? ["dpi"] fields with
    | [dpi] => pure (.configChanged (← dpi.required? Json.toUInt32?))
    | _ => none
  | "GamepadCount" =>
    match ← slots? ["count"] fields with
    | [count] => pure (.gamepadCount (← count.required? Json.toUInt64?))
    | _ => none
  | "GamepadData" =>
    match ← slots? gamepadDataNames fields with
    | [index, device, name] =>
      pure
        (.gamepadData (← index.required? Json.toUInt64?) (← device.required? Json.toInt32?)
          (← name.required? Json.toText?))
    | _ => none
  | "GamepadAxis" =>
    match ← slots? gamepadAxisNames fields with
    | [device, axes] =>
      pure (.gamepadAxis (← device.required? Json.toInt32?) (← axes.required? toAxes?))
    | _ => none
  | "GamepadButton" =>
    match ← slots? gamepadButtonNames fields with
    | [device, button, value] =>
      pure
        (.gamepadButton (← device.required? Json.toInt32?) (← button.required? Json.toInt32?)
          (← value.required? Json.toUInt32?))
    | _ => none
  | "WindowClose" =>
    match ← slots? ["window_id"] fields with
    | [window] => pure (.windowClose (← window.required? Json.toUInt32?))
    | _ => none
  | "SysCommand" =>
    match ← slots? systemCommandNames fields with
    | [window, command] =>
      pure
        (.systemCommand (← window.required? Json.toUInt32?) (← command.required? Json.toUInt32?))
    | _ => none
  | "ImeStart" => (empty? fields).map fun _ => .imeStart
  | "ImeSetText" =>
    match ← slots? imeTextNames fields with
    | [text, length, cursor] =>
      pure
        (.imeSetText (← text.required? Json.toText?) (← length.required? Json.toUInt64?)
          (← cursor.required? Json.toInt32?))
    | _ => none
  | "ImeFinish" => (empty? fields).map fun _ => .imeFinish
  | "ImeCancel" => (empty? fields).map fun _ => .imeCancel
  | "ClearMetaKeyStates" =>
    match ← slots? ["states"] fields with
    | [states] => pure (.clearMetaKeyStates (← states.required? Json.toUInt32?))
    | _ => none
  | "ClipdataUpdate" =>
    match ← slots? clipboardUpdateNames fields with
    | [flags, mimeTypes] =>
      pure
        (.clipboardUpdate (← flags.required? Json.toUInt32?)
          (← mimeTypes.optional? (Json.toList? Json.toText?)))
    | _ => none
  | "RunCommandLine" =>
    (toCommandLine? fields).map fun (commandLine, environment) =>
      .runCommandLine commandLine environment
  | "RunCommandArray" =>
    (toCommandArray? fields).map fun (arguments, environment) =>
      .runCommandArray arguments environment
  | _ => none

def toCall? (json : Json) : Option Call := do
  guard (json.isReadable deepest)
  let (tag, fields) ← untag? "type" json
  toCallNamed? (← variant? callNames false tag) fields

def encodeCall (call : Call) : List UInt8 :=
  (ofCall call).toBytes

def decodeCall? (payload : List UInt8) : Option Call :=
  (Json.ofBytes? payload).bind toCall?

end Wire

end WindowRelay
