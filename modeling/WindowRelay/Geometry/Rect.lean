import WindowRelay.Numeric.Coordinate

/-!
Contract: axis-aligned rectangles in desktop coordinates.

Owns:
- the rectangle, its extents, its translation and its text.

Does not own: the places that views get (`Geometry.Layout`).
-/

namespace WindowRelay

/-- The rectangle between two corners; nothing is said about their order. -/
structure Rect where
  left : Coordinate
  top : Coordinate
  right : Coordinate
  bottom : Coordinate
deriving DecidableEq, Repr

namespace Rect

/-- The rectangle of a window that has not been placed yet. -/
def zero : Rect := ⟨0, 0, 0, 0⟩

instance : Inhabited Rect := ⟨zero⟩

def width (rect : Rect) : Except Overflow Coordinate :=
  Coordinate.sub rect.right rect.left

def height (rect : Rect) : Except Overflow Coordinate :=
  Coordinate.sub rect.bottom rect.top

/-- A rectangle without area. -/
def isEmpty (rect : Rect) : Bool :=
  rect.right ≤ rect.left || rect.bottom ≤ rect.top

/-- Translation. The corners are moved in the order left, top, right, bottom, so the first of
them that leaves the coordinates decides the fault. -/
def offset (rect : Rect) (dx dy : Coordinate) : Except Overflow Rect := do
  let left ← Coordinate.add rect.left dx
  let top ← Coordinate.add rect.top dy
  let right ← Coordinate.add rect.right dx
  let bottom ← Coordinate.add rect.bottom dy
  pure ⟨left, top, right, bottom⟩

/-- The corners in the form `(left,top)-(right,bottom)`. -/
def text (rect : Rect) : String :=
  "(" ++ toString rect.left.toInt ++ "," ++ toString rect.top.toInt ++ ")-(" ++
    toString rect.right.toInt ++ "," ++ toString rect.bottom.toInt ++ ")"

end Rect

end WindowRelay
