import WindowRelay.Numeric.Coordinate

/-!
Contract: a touchpad scroll on one window.

Owns:
- where a scroll started and where it was last seen;
- the scroll amounts of a move, of a release and of a cancellation.

Amounts are horizontal first. A cancellation takes back what the moves have scrolled.
-/

namespace WindowRelay

/-- A touchpad scroll in progress. -/
structure Gesture where
  device : Int32
  originX : Coordinate
  originY : Coordinate
  lastX : Coordinate
  lastY : Coordinate
deriving DecidableEq, Repr

namespace Gesture

/-- A scroll that starts at a position. -/
def startingAt (device : Int32) (x y : Coordinate) : Gesture :=
  ⟨device, x, y, x, y⟩

/-- The amounts of a move to a position. -/
def moveAmounts (gesture : Gesture) (x y : Coordinate) :
    Except Overflow (Coordinate × Coordinate) := do
  let horizontal ← Coordinate.sub gesture.lastX x
  let vertical ← Coordinate.sub y gesture.lastY
  pure (horizontal, vertical)

def movedTo (gesture : Gesture) (x y : Coordinate) : Gesture :=
  { gesture with lastX := x, lastY := y }

/-- The amounts of a cancellation. -/
def cancelAmounts (gesture : Gesture) : Except Overflow (Coordinate × Coordinate) := do
  let horizontal ← Coordinate.sub gesture.lastX gesture.originX
  let vertical ← Coordinate.sub gesture.originY gesture.lastY
  pure (horizontal, vertical)

end Gesture

end WindowRelay
