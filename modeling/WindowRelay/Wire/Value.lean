import WindowRelay.Clipboard.Clip
import WindowRelay.Geometry.Rect
import WindowRelay.Message.Environment
import WindowRelay.Window.Icon
import WindowRelay.Wire.Record

/-!
Contract: the written form of the values inside messages.

Owns:
- rectangles, environment overrides, cursor requests and clips, both ways.

Does not own: samples (`Wire.Sample`) and the messages themselves.
-/

namespace WindowRelay

namespace Wire

def rectNames : List String := ["left", "top", "right", "bottom"]

def ofRect (rect : Rect) : Json :=
  .object
    [("left", .ofInt32 rect.left), ("top", .ofInt32 rect.top), ("right", .ofInt32 rect.right),
      ("bottom", .ofInt32 rect.bottom)]

def toRect? (json : Json) : Option Rect := do
  match ← slots? rectNames json with
  | [left, top, right, bottom] =>
    pure
      { left := ← left.required? Json.toInt32?
        top := ← top.required? Json.toInt32?
        right := ← right.required? Json.toInt32?
        bottom := ← bottom.required? Json.toInt32? }
  | _ => none

def ofEnvironment (environment : Environment) : Json :=
  .object (environment.entries.map fun entry => (entry.1, .string entry.2))

def toEntry? (member : String × Json) : Option (String × String) :=
  member.2.toText?.map fun value => (member.1, value)

/-- An object of strings; the last value of a name counts. -/
def toEnvironment? : Json → Option Environment
  | .object members =>
    (members.mapM toEntry?).map Environment.ofList
  | _ => none

def cursorNames : List String := ["System", "Custom"]
def stockCursorNames : List String := ["id"]
def bitmapNames : List String := ["width", "height", "hotspot_x", "hotspot_y", "pixels"]

def ofCursorRequest : CursorRequest → Json
  | .stock id => tagged "kind" "System" [("id", .ofInt32 id)]
  | .bitmap width height hotspotX hotspotY pixels =>
    tagged "kind" "Custom"
      [("width", .ofUInt32 width), ("height", .ofUInt32 height),
        ("hotspot_x", .ofInt32 hotspotX), ("hotspot_y", .ofInt32 hotspotY),
        ("pixels", .ofList .ofUInt32 pixels)]

/-- The kind of a cursor may be given by number. -/
def toCursorRequest? (json : Json) : Option CursorRequest := do
  let (tag, fields) ← untag? "kind" json
  match ← variant? cursorNames true tag with
  | "System" =>
    match ← slots? stockCursorNames fields with
    | [id] => pure (.stock (← id.required? Json.toInt32?))
    | _ => none
  | "Custom" =>
    match ← slots? bitmapNames fields with
    | [width, height, hotspotX, hotspotY, pixels] =>
      pure
        (.bitmap (← width.required? Json.toUInt32?) (← height.required? Json.toUInt32?)
          (← hotspotX.required? Json.toInt32?) (← hotspotY.required? Json.toInt32?)
          (← pixels.required? (Json.toList? Json.toUInt32?)))
    | _ => none
  | _ => none

def clipItemNames : List String := ["text", "spanned", "html", "uri", "has_intent"]

def ofClipItem (item : ClipItem) : Json :=
  .object
    [("text", .ofOption .string item.text), ("spanned", .bool item.spanned),
      ("html", .ofOption .string item.html), ("uri", .ofOption .string item.uri),
      ("has_intent", .bool item.hasIntent)]

def toClipItem? (json : Json) : Option ClipItem := do
  match ← slots? clipItemNames json with
  | [text, spanned, html, uri, hasIntent] =>
    pure
      { text := ← text.optional? Json.toText?
        spanned := ← spanned.defaulted? false Json.toBool?
        html := ← html.optional? Json.toText?
        uri := ← uri.optional? Json.toText?
        hasIntent := ← hasIntent.defaulted? false Json.toBool? }
  | _ => none

def clipNames : List String := ["label", "mime_types", "items"]

def ofClip (clip : Clip) : Json :=
  .object
    [("label", .string clip.label), ("mime_types", .ofList .string clip.mimeTypes),
      ("items", .ofList ofClipItem clip.items)]

def toClip? (json : Json) : Option Clip := do
  match ← slots? clipNames json with
  | [label, mimeTypes, items] =>
    pure
      { label := ← label.required? Json.toText?
        mimeTypes := ← mimeTypes.defaulted? [] (Json.toList? Json.toText?)
        items := ← items.defaulted? [] (Json.toList? toClipItem?) }
  | _ => none

end Wire

end WindowRelay
