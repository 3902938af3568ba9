import WindowRelay.Geometry.Layout
import WindowRelay.Numeric.Binary32
import WindowRelay.Window.Flags
import WindowRelay.Window.Icon
import WindowRelay.Window.Surface

/-!
Contract: the state kept for one window of the window manager.

Owns:
- the three kinds of window and the record of one window;
- visibility, the topmost flag, and what makes a window a candidate for the activity title.

Does not own: links between windows beyond the ids stored here (`Tree`).
-/

namespace WindowRelay

/-- Title and icon shown for the whole activity. -/
structure ActivityTitle where
  text : String
  icon : Option Icon
deriving DecidableEq, Repr

namespace Node

/-- What kind of window a node stands for. -/
inductive Kind where
  /-- the window behind the desktop container -/
  | desktop
  /-- a parentless window hosted directly in the desktop container -/
  | topLevel (topmost : Bool)
  /-- a window inside the client container of its parent, or detached -/
  | child
deriving DecidableEq, Repr

end Node

/-- The state of one window. Children are listed back to front. -/
structure Node where
  id : WindowId
  kind : Node.Kind
  owner : WindowId := WindowId.absent
  style : Style := Style.empty
  scale : Binary32 := Binary32.one
  process : UInt32 := 0
  windowRect : Rect := Rect.zero
  clientRect : Rect := Rect.zero
  visibleRect : Rect := Rect.zero
  parent : Option WindowId := none
  children : List WindowId := []
  title : Option String := none
  icon : Option Icon := none
  surfaces : Surface.Slots := {}
  accelerated : Bool := false
deriving DecidableEq, Repr

namespace Node

/-- The desktop is always shown; every other window follows its style. -/
def visible (node : Node) : Bool :=
  node.kind == .desktop || node.style.isVisible

def minimized (node : Node) : Bool :=
  node.style.isMinimized

def isTopLevel (node : Node) : Bool :=
  match node.kind with
  | .topLevel _ => true
  | _ => false

def topmost (node : Node) : Bool :=
  node.kind == .topLevel true

/-- Only top-level windows have a topmost flag; on the others nothing is set. -/
def setTopmost (node : Node) (value : Bool) : Node :=
  match node.kind with
  | .topLevel _ => { node with kind := .topLevel value }
  | _ => node

theorem topmost_of_kind {node : Node} {flag : Bool} (isTopLevel : node.kind = .topLevel flag) :
    node.topmost = flag := by
  unfold topmost
  rw [isTopLevel]
  cases flag <;> rfl

theorem setTopmost_of_kind {node : Node} {flag : Bool} (isTopLevel : node.kind = .topLevel flag)
    (value : Bool) : node.setTopmost value = { node with kind := .topLevel value } := by
  unfold setTopmost
  rw [isTopLevel]

/-- Shown and not minimized: the windows that the desktop container keeps in order. -/
def stackedVisible (node : Node) : Bool :=
  node.visible && !node.minimized

/-- The layout of the client container inside the whole container. -/
def clientLayout (node : Node) : Except Overflow Rect :=
  Layout.clientArea node.clientRect node.visibleRect

/-- The activity title that this window would give: an unowned, visible, titled top-level
window gives one. -/
def activityTitle (node : Node) : Option ActivityTitle :=
  if node.isTopLevel && node.owner == WindowId.absent && node.visible then
    node.title.map fun text => ⟨text, node.icon⟩
  else none

/-- Where the host puts the whole container of a top-level window: hidden windows are parked,
with one pixel on the screen while their backing is still to come. -/
def wholePlace (node : Node) : Except Overflow Rect :=
  if node.visible then .ok node.visibleRect
  else Layout.offscreen node.visibleRect node.surfaces.whole.isNone

end Node

end WindowRelay
