import WindowRelay.Message.Inbound
import WindowRelay.Wire.Call
import WindowRelay.Wire.Sample

/-!
Contract: the written form of messages from a peer.

Owns:
- messages as JSON values and as payloads, both ways.

A message names its channel and holds a body. The body names its kind under `type`; a body that
comes before its channel may give the kind by number too. What stands beside channel and body is
passed over unread.
-/

namespace WindowRelay

namespace Wire

/-! ## Events of the window manager -/

/-- The names of the events, in the order of their numbers. -/
def managerNames : List String :=
  ["CreateDesktop", "CreateWindow", "DestroyWindow", "SetParent", "SetPosition", "SetFocus",
    "SetText", "SetIcon", "SetCursor", "CloseWindow", "PollClipboard", "SetClipboard"]

def createDesktopNames : List String := ["window_id", "scaling"]
def createWindowNames : List String := ["window_id", "accelerated", "parent", "scale", "pid"]
def setParentNames : List String := ["window_id", "parent", "scale", "pid"]
def setPositionNames : List String :=
  ["window_id", "flags", "insert_after", "owner", "style", "window_rect", "client_rect",
    "visible_rect"]
def setTextNames : List String := ["window_id", "text"]
def setIconNames : List String := ["window_id", "width", "height", "pixels"]

def ofManagerEvent : ManagerEvent → Json
  | .createDesktop window scaling =>
    tagged "type" "CreateDesktop" [("window_id", .ofUInt32 window), ("scaling", .ofUInt32 scaling)]
  | .createWindow window accelerated parent scale process =>
    tagged "type" "CreateWindow"
      [("window_id", .ofUInt32 window), ("accelerated", .bool accelerated),
        ("parent", .ofUInt32 parent), ("scale", .ofBinary32 scale), ("pid", .ofUInt32 process)]
  | .destroyWindow window => tagged "type" "DestroyWindow" [("window_id", .ofUInt32 window)]
  | .setParent window parent scale process =>
    tagged "type" "SetParent"
      [("window_id", .ofUInt32 window), ("parent", .ofUInt32 parent),
        ("scale", .ofBinary32 scale), ("pid", .ofUInt32 process)]
  | .setPosition window flags insertAfter owner style windowRect clientRect visibleRect =>
    tagged "type" "SetPosition"
      [("window_id", .ofUInt32 window), ("flags", .ofUInt32 flags),
        ("insert_after", .ofUInt32 insertAfter), ("owner", .ofUInt32 owner),
        ("style", .ofUInt32 style), ("window_rect", ofRect windowRect),
        ("client_rect", ofRect clientRect), ("visible_rect", ofRect visibleRect)]
  | .setFocus window => tagged "type" "SetFocus" [("window_id", .ofUInt32 window)]
  | .setText window text =>
    tagged "type" "SetText" [("window_id", .ofUInt32 window), ("text", .string text)]
  | .setIcon window width height pixels =>
    tagged "type" "SetIcon"
      [("window_id", .ofUInt32 window), ("width", .ofUInt32 width), ("height", .ofUInt32 height),
        ("pixels", .ofOption (.ofList .ofUInt32) pixels)]
  | .setCursor cursor => tagged "type" "SetCursor" [("cursor", ofCursorRequest cursor)]
  | .closeWindow window => tagged "type" "CloseWindow" [("window_id", .ofUInt32 window)]
  | .pollClipboard => tagged "type" "PollClipboard" []
  | .setClipboard text => tagged "type" "SetClipboard" [("text", .string text)]

/-- An event of the window manager by its name and its other fields. -/
def toManagerNamed? (name : String) (fields : Json) : Option ManagerEvent := do
  match name with
  | "CreateDesktop" =>
    match ← slots? createDesktopNames fields with
    | [window, scaling] =>
      pure
        (.createDesktop (← window.required? Json.toUInt32?) (← scaling.required? Json.toUInt32?))
    | _ => none
  | "CreateWindow" =>
    match ← slots? createWindowNames fields with
    | [window, accelerated, parent, scale, process] =>
      pure
        (.createWindow (← window.required? Json.toUInt32?) (← accelerated.required? Json.toBool?)
          (← parent.required? Json.toUInt32?) (← scale.required? Json.toBinary32?)
          (← process.required? Json.toUInt32?))
    | _ => none
  | "DestroyWindow" =>
    match ← slots? ["window_id"] fields with
    | [window] => pure (.destroyWindow (← window.required? Json.toUInt32?))
    | _ => none
  | "SetParent" =>
    match ← slots? setParentNames fields with
    | [window, parent, scale, process] =>
      pure
        (.setParent (← window.required? Json.toUInt32?) (← parent.required? Json.toUInt32?)
          (← scale.required? Json.toBinary32?) (← process.required? Json.toUInt32?))
    | _ => none
  | "SetPosition" =>
    match ← slots? setPositionNames fields with
    | [window, flags, insertAfter, owner, style, windowRect, clientRect, visibleRect] =>
      pure
        (.setPosition (← window.required? Json.toUInt32?) (← flags.required? Json.toUInt32?)
          (← insertAfter.required? Json.toUInt32?) (← owner.required? Json.toUInt32?)
          (← style.required? Json.toUInt32?) (← windowRect.required? toRect?)
          (← clientRect.required? toRect?) (← visibleRect.required? toRect?))
    | _ => none
  | "SetFocus" =>
    match ← slots? ["window_id"] fields with
    | [window] => pure (.setFocus (← window.required? Json.toUInt32?))
    | _ => none
  | "SetText" =>
    match ← slots? setTextNames fields with
    | [window, text] =>
      pure (.setText (← window.required? Json.toUInt32?) (← text.required? Json.toText?))
    | _ => none
  | "SetIcon" =>
    match ← slots? setIconNames fields with
    | [window, width, height, pixels] =>
      pure
        (.setIcon (← window.required? Json.toUInt32?) (← width.required? Json.toUInt32?)
          (← height.required? Json.toUInt32?)
          (← pixels.optional? (Json.toList? Json.toUInt32?)))
    | _ => none
  | "SetCursor" =>
    match ← slots? ["cursor"] fields with
    | [cursor] => pure (.setCursor (← cursor.required? toCursorRequest?))
    | _ => none
  | "CloseWindow" =>
    match ← slots? ["window_id"] fields with
    | [window] => pure (.closeWindow (← window.required? Json.toUInt32?))
    | _ => none
  | "PollClipboard" => (empty? fields).map fun _ => .pollClipboard
  | "SetClipboard" =>
    match ← slots? ["text"] fields with
    | [text] => pure (.setClipboard (← text.required? Json.toText?))
    | _ => none
  | _ => none

/-! ## Commands of the shell -/

def shellNames : List String := ["RunCommandLine", "RunCommandArray", "CloseDesktop"]

def ofShellCommand : ShellCommand → Json
  | .runCommandLine commandLine environment =>
    tagged "type" "RunCommandLine" (commandLineFields commandLine environment)
  | .runCommandArray arguments environment =>
    tagged "type" "RunCommandArray" (commandArrayFields arguments environment)
  | .closeDesktop => tagged "type" "CloseDesktop" []

def toShellNamed? (name : String) (fields : Json) : Option ShellCommand :=
  match name with
  | "RunCommandLine" =>
    (toCommandLine? fields).map fun (commandLine, environment) =>
      .runCommandLine commandLine environment
  | "RunCommandArray" =>
    (toCommandArray? fields).map fun (arguments, environment) =>
      .runCommandArray arguments environment
  | "CloseDesktop" => (empty? fields).map fun _ => .closeDesktop
  | _ => none

/-! ## Events of the host -/

/-- The names of the events, in the order of their numbers. -/
def hostNames : List String :=
  ["SurfaceAvailable", "SurfaceDestroyed", "ViewVisibility", "DesktopResized", "Motion", "Key",
    "ImeCompose", "ImeCommit", "ImeFinish", "ClearMetaKeyStates", "ActivityStarted",
    "ActivityStopped", "DeviceAdded", "ClipboardChanged"]

def surfaceAvailableNames : List String := ["window_id", "client", "surface"]
def surfaceDestroyedNames : List String := ["window_id", "client"]
def viewVisibilityNames : List String := ["window_id", "client", "visible"]
def composeNames : List String := ["text", "cursor"]
def commitNames : List String := ["text", "cursor", "key_events"]
def deviceAddedNames : List String := ["device_id", "source", "descriptor"]

def ofHostEvent : HostEvent → Json
  | .surfaceAvailable window client surface =>
    tagged "type" "SurfaceAvailable"
      [("window_id", .ofUInt32 window), ("client", .bool client), ("surface", .ofUInt64 surface)]
  | .surfaceDestroyed window client =>
    tagged "type" "SurfaceDestroyed" [("window_id", .ofUInt32 window), ("client", .bool client)]
  | .viewVisibility window client visible =>
    tagged "type" "ViewVisibility"
      [("window_id", .ofUInt32 window), ("client", .bool client), ("visible", .bool visible)]
  | .desktopResized width height =>
    tagged "type" "DesktopResized" [("width", .ofInt32 width), ("height", .ofInt32 height)]
  | .motion sample => tagged "type" "Motion" (motionFields sample)
  | .key sample => tagged "type" "Key" (keyFields sample)
  | .imeCompose text cursor =>
    tagged "type" "ImeCompose" [("text", .string text), ("cursor", .ofInt32 cursor)]
  | .imeCommit text cursor keys =>
    tagged "type" "ImeCommit"
      [("text", .string text), ("cursor", .ofInt32 cursor),
        ("key_events", .ofOption (.ofList ofKey) keys)]
  | .imeFinish => tagged "type" "ImeFinish" []
  | .clearMetaKeyStates states =>
    tagged "type" "ClearMetaKeyStates" [("states", .ofUInt32 states)]
  | .activityStarted => tagged "type" "ActivityStarted" []
  | .activityStopped => tagged "type" "ActivityStopped" []
  | .deviceAdded device source descriptor =>
    tagged "type" "DeviceAdded"
      [("device_id", .ofInt32 device), ("source", .ofUInt32 source),
        ("descriptor", .string descriptor)]
  | .clipboardChanged clip => tagged "type" "ClipboardChanged" [("clip", .ofOption ofClip clip)]

/-- An event of the host by its name and its other fields. -/
def toHostNamed? (name : String) (fields : Json) : Option HostEvent := do
  match name with
  | "SurfaceAvailable" =>
    match ← slots? surfaceAvailableNames fields with
    | [window, client, surface] =>
      pure
        (.surfaceAvailable (← window.required? Json.toUInt32?) (← client.required? Json.toBool?)
          (← surface.required? Json.toUInt64?))
    | _ => none
  | "SurfaceDestroyed" =>
    match ← slots? surfaceDestroyedNames fields with
    | [window, client] =>
      pure
        (.surfaceDestroyed (← window.required? Json.toUInt32?) (← client.required? Json.toBool?))
    | _ => none
  | "ViewVisibility" =>
    match ← slots? viewVisibilityNames fields with
    | [window, client, visible] =>
      pure
        (.viewVisibility (← window.required? Json.toUInt32?) (← client.required? Json.toBool?)
          (← visible.required? Json.toBool?))
    | _ => none
  | "DesktopResized" =>
    match ← slots? sizeNames fields with
    | [width, height] =>
      pure (.desktopResized (← width.required? Json.toInt32?) (← height.required? Json.toInt32?))
    | _ => none
  | "Motion" => (toMotion? true fields).map .motion
  | "Key" => (toKey? fields).map .key
  | "ImeCompose" =>
    match ← slots? composeNames fields with
    | [text, cursor] =>
      pure (.imeCompose (← text.required? Json.toText?) (← cursor.required? Json.toInt32?))
    | _ => none
  | "ImeCommit" =>
    match ← slots? commitNames fields with
    | [text, cursor, keys] =>
      pure
        (.imeCommit (← text.required? Json.toText?) (← cursor.required? Json.toInt32?)
          (← keys.optional? (Json.toList? toKey?)))
    | _ => none
  | "ImeFinish" => (empty? fields).map fun _ => .imeFinish
  | "ClearMetaKeyStates" =>
    match ← slots? ["states"] fields with
    | [states] => pure (.clearMetaKeyStates (← states.required? Json.toUInt32?))
    | _ => none
  | "ActivityStarted" => (empty? fields).map fun _ => .activityStarted
  | "ActivityStopped" => (empty? fields).map fun _ => .activityStopped
  | "DeviceAdded" =>
    match ← slots? deviceAddedNames fields with
    | [device, source, descriptor] =>
      pure
        (.deviceAdded (← device.required? Json.toInt32?) (← source.required? Json.toUInt32?)
          (← descriptor.required? Json.toText?))
    | _ => none
  | "ClipboardChanged" =>
    match ← slots? ["clip"] fields with
    | [clip] => pure (.clipboardChanged (← clip.optional? toClip?))
    | _ => none
  | _ => none

/-! ## Messages -/

/-- A message with its channel before its body. -/
def message (channel : String) (body : Json) : Json :=
  .object [("channel", .string channel), ("body", body)]

def ofInbound : Inbound → Json
  | .manager event => message "nwm" (ofManagerEvent event)
  | .shell command => message "shell" (ofShellCommand command)
  | .host event => message "host" (ofHostEvent event)

/-- The name of a channel. A member may also give it as an object with that one name and `null`. -/
def toChannel? : Json → Option String
  | .string channel => some channel
  | .object [(channel, .null)] => some channel
  | _ => none

/-- The body of a message on a channel, which lies one container deep in its payload. -/
def toBody? (channel : String) (byNumber : Bool) (body : Json) : Option Inbound := do
  guard (body.isReadable (deepest - 1))
  let (tag, fields) ← untag? "type" body
  match channel with
  | "nwm" =>
    (toManagerNamed? (← variant? managerNames byNumber tag) fields).map .manager
  | "shell" => (toShellNamed? (← variant? shellNames byNumber tag) fields).map .shell
  | "host" => (toHostNamed? (← variant? hostNames byNumber tag) fields).map .host
  | _ => none

/-- Whether the first of the members with one of two names has the first name. -/
def comesBefore (first second : String) (members : List (String × Json)) : Bool :=
  ((members.map Prod.fst).find? fun name => name == first || name == second) == some first

/-- A message, as an object or as the list of its channel and its body. -/
def toInbound? : Json → Option Inbound
  | .object members =>
    match valuesOf "channel" members, valuesOf "body" members with
    | [channel], [body] => do
      toBody? (← toChannel? channel) (comesBefore "body" "channel" members) body
    | _, _ => none
  | .array [.string channel, body] => toBody? channel false body
  | _ => none

def encodeInbound (inbound : Inbound) : List UInt8 :=
  (ofInbound inbound).toBytes

def decodeInbound? (payload : List UInt8) : Option Inbound :=
  (Json.ofBytes? payload).bind toInbound?

end Wire

end WindowRelay
