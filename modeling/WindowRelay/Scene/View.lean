import WindowRelay.Geometry.Rect
import WindowRelay.Window.Id
import WindowRelay.Window.Surface

/-!
Contract: the host view of one window.

Owns:
- the stacking list of a client container, windows and reserved content mixed, back to front;
- insertion among the windows, removal and raising.

The index of an insertion counts windows only; `insertionPoint` translates it into an index of
the mixed list. Past the last window it is the place of the first reserved entry, so a reserved
entry at the front stays there.
-/

namespace WindowRelay

/-- One entry of the stacking list of a client container. -/
inductive StackEntry where
  /-- the whole container of a window -/
  | window (id : WindowId)
  /-- the reserved content object -/
  | content
deriving DecidableEq, Repr

namespace StackEntry

def window? : StackEntry → Option WindowId
  | window id => some id
  | content => none

end StackEntry

/-- The views of one window: a whole container with a client container inside. -/
structure View where
  /-- the whole container in the coordinates of its parent -/
  wholeLayout : Rect := Rect.zero
  /-- the client container inside the whole container -/
  clientLayout : Rect := Rect.zero
  wholeContent : Bool := false
  clientContent : Bool := false
  /-- the client container, back to front -/
  stack : List StackEntry := []
  focusable : Bool := false
  shown : Bool := true
deriving DecidableEq, Repr

namespace View

/-- A fresh view, with or without a reserved content object in front. -/
def fresh (reserveFront : Bool) : View :=
  { stack := if reserveFront then [.content] else [] }

/-- The windows of a stacking list, back to front. -/
def windowsOf (stack : List StackEntry) : List WindowId :=
  stack.filterMap StackEntry.window?

/-- The windows in the client container, back to front. -/
def windows (view : View) : List WindowId :=
  windowsOf view.stack

/-- The place of the window with this index among the windows. -/
def placeOfWindow? : List StackEntry → Nat → Option Nat
  | [], _ => none
  | .content :: rest, index => (placeOfWindow? rest index).map (· + 1)
  | .window _ :: _, 0 => some 0
  | .window _ :: rest, index + 1 => (placeOfWindow? rest index).map (· + 1)

/-- Where a window has to be inserted to get this index among the windows. -/
def insertionPoint (stack : List StackEntry) (index : Nat) : Nat :=
  match placeOfWindow? stack index with
  | some place => place
  | none => stack.findIdx (· == .content)

def remove (view : View) (id : WindowId) : View :=
  { view with stack := view.stack.filter (· != .window id) }

/-- Put a window at an index among the other windows. -/
def insert (view : View) (id : WindowId) (index : Nat) : View :=
  let rest := view.remove id
  { rest with stack := rest.stack.insertIdx (insertionPoint rest.stack index) (.window id) }

/-- Put a window in front of every other window. -/
def raise (view : View) (id : WindowId) : View :=
  view.insert id view.windows.length

def layout (view : View) : Surface.Kind → Rect
  | .whole => view.wholeLayout
  | .client => view.clientLayout

def setLayout (view : View) (kind : Surface.Kind) (rect : Rect) : View :=
  match kind with
  | .whole => { view with wholeLayout := rect }
  | .client => { view with clientLayout := rect }

def addContent (view : View) : Surface.Kind → View
  | .whole => { view with wholeContent := true }
  | .client => { view with clientContent := true }

end View

end WindowRelay
