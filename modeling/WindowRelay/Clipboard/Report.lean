import WindowRelay.Clipboard.Clip
import WindowRelay.Message.Call

/-!
Contract: what the window manager learns about the clipboard.

Owns:
- the classification of a clip by its first item;
- the report of a poll, the clip published for a text, and the text read back.

The snapshot is the clip of the last poll; text is read from it alone.
-/

namespace WindowRelay

namespace Clipboard

def ours : UInt32 := 0x01
def hasText : UInt32 := 0x02
def emptyText : UInt32 := 0x04
def spannedText : UInt32 := 0x08
def hasHtml : UInt32 := 0x10
def hasIntent : UInt32 := 0x20
def hasUri : UInt32 := 0x40

/-- The label of published clips. -/
def label : String := "Wine clipboard"

/-- The URI that marks a clip as published here, for a content authority. -/
def ownUri (authority : String) : String :=
  "content://" ++ authority ++ "/copying"

/-- A flag if a condition holds. -/
def flagIf (condition : Bool) (flag : UInt32) : UInt32 :=
  if condition then flag else 0

/-- The flags of an item, given the URI of published clips. -/
def itemFlags (own : Option String) (item : ClipItem) : UInt32 :=
  let uriFlags :=
    match item.uri with
    | some uri => hasUri ||| flagIf (own == some uri) ours
    | none => 0
  let textFlags :=
    match item.text with
    | some text => hasText ||| flagIf text.isEmpty emptyText ||| flagIf item.spanned spannedText
    | none => 0
  uriFlags ||| textFlags ||| flagIf item.html.isSome hasHtml ||| flagIf item.hasIntent hasIntent

/-- The flags and MIME types under which a clip is reported. A clip without items is reported
like a missing one. -/
def classify (own : Option String) : Option Clip → UInt32 × Option (List String)
  | some clip =>
    match clip.items with
    | first :: _ => (itemFlags own first, some clip.mimeTypes)
    | [] => (0, none)
  | none => (0, none)

/-- The call that reports a clip. -/
def report (own : Option String) (clip : Option Clip) : Call :=
  let (flags, mimeTypes) := classify own clip
  .clipboardUpdate flags mimeTypes

/-- The clip published for a text. -/
def publish (own : Option String) (text : String) : Clip where
  label := label
  items := [{ text := some text, uri := own }]

/-- The text of the first item of a snapshot, for a request for plain text alone. -/
def text (snapshot : Option Clip) (flags : UInt32) : String :=
  if flags = hasText then
    match snapshot with
    | some clip => ((clip.items.head?).bind ClipItem.text).getD ""
    | none => ""
  else ""

end Clipboard

end WindowRelay
