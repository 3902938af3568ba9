import WindowRelay.Geometry.Rect

/-!
Contract: the layouts that host views get from window rectangles.

Owns:
- `padded`: a footprint of at least two units on each axis;
- `clientArea`: the client rectangle seen from the visible origin;
- `offscreen`: the parking place of a hidden top-level window.

Does not own: the decision which window gets which layout (`Tree.Placement`).
-/

namespace WindowRelay.Layout

/-- One axis of `padded`: an extent of one unit or less becomes two units. -/
def paddedEnd (start stop : Coordinate) : Except Overflow Coordinate := do
  let least ← Coordinate.add start 1
  if stop ≤ least then Coordinate.add start 2 else pure stop

/-- The host allocates backing only for views with a footprint, so a degenerate rectangle is
widened to two units on each axis. -/
def padded (rect : Rect) : Except Overflow Rect := do
  let right ← paddedEnd rect.left rect.right
  let bottom ← paddedEnd rect.top rect.bottom
  pure { rect with right, bottom }

/-- The client rectangle relative to the origin of the visible rectangle. -/
def clientArea (client visible : Rect) : Except Overflow Rect := do
  let dx ← Coordinate.neg visible.left
  let dy ← Coordinate.neg visible.top
  client.offset dx dy

/-- The place of a hidden top-level window: up and to the left of the desktop, without a
footprint, or with one pixel left on the screen so that the host has something to back. -/
def offscreen (visible : Rect) (keepPixel : Bool) : Except Overflow Rect := do
  let left ← Coordinate.sub visible.left visible.right
  let top ← Coordinate.sub visible.top visible.bottom
  if keepPixel then
    let left ← Coordinate.add left 1
    let top ← Coordinate.add top 1
    padded ⟨left, top, 1, 1⟩
  else
    pure ⟨left, top, 0, 0⟩

/-- The footprint that a fresh client content view gets until its backing shows up. -/
def kickoff : Rect := ⟨0, 0, 1, 1⟩

end WindowRelay.Layout
