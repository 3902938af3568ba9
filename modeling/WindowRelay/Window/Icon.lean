import WindowRelay.Window.Error

/-!
Contract: images handed over by the window manager as raw pixel buffers.

Owns:
- window icons and pointer cursors, each admitted only with a buffer of the stated size.

Does not own: where an icon is shown.
-/

namespace WindowRelay

/-- The largest admitted image, in pixels. -/
def largestImage : Nat := 1024 * 1024

/-- An image with one 32-bit colour per pixel. -/
structure Icon where
  width : UInt32
  height : UInt32
  pixels : List UInt32
deriving DecidableEq, Repr

/-- A buffer fits an image when it is not empty, not too large, and has one entry per pixel. -/
def imageFits (width height : UInt32) (pixels : List UInt32) : Bool :=
  let count := width.toNat * height.toNat
  0 < count && count ≤ largestImage && count == pixels.length

/-- The icon of a window, unless its buffer does not fit. -/
def Icon.forWindow (window : WindowId) (width height : UInt32) (pixels : List UInt32) :
    Except WindowError Icon :=
  if imageFits width height pixels then .ok ⟨width, height, pixels⟩
  else .error (.invalidIcon window width height pixels.length)

/-- The pointer cursor as the host shows it. -/
inductive Cursor where
  /-- one of the stock cursors of the host -/
  | stock (id : Int32)
  | image (icon : Icon) (hotspotX hotspotY : Int32)
deriving DecidableEq, Repr

/-- The cursor that the window manager asks for, before its buffer has been checked. -/
inductive CursorRequest where
  | stock (id : Int32)
  | bitmap (width height : UInt32) (hotspotX hotspotY : Int32) (pixels : List UInt32)
deriving DecidableEq, Repr

def CursorRequest.admit : CursorRequest → Except WindowError Cursor
  | .stock id => .ok (.stock id)
  | .bitmap width height hotspotX hotspotY pixels =>
    if imageFits width height pixels then .ok (.image ⟨width, height, pixels⟩ hotspotX hotspotY)
    else .error (.invalidCursor width height pixels.length)

end WindowRelay
