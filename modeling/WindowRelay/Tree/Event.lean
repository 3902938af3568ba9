import WindowRelay.Tree.Attributes
import WindowRelay.Tree.Position
import WindowRelay.Tree.Reparent

/-!
Contract: the events about windows, and the tree together with the scene that it drives.

Owns:
- one constructor per event and the change that it makes;
- the application of a change to tree and scene, and runs of events.

A failed event leaves tree and scene as they are. The change of the tree alone depends on the
scene only through the question which windows have views, and only its commands do.
-/

namespace WindowRelay

/-- An event about windows. -/
inductive TreeEvent where
  | createDesktop (id : WindowId)
  | create (id parent : WindowId) (scale : Binary32) (accelerated : Bool) (process : UInt32)
  | startAccelerated (id : WindowId)
  | destroy (id : WindowId)
  | reparent (id parent : WindowId) (scale : Binary32)
  | position (id : WindowId) (placement : Placement)
  | focus (id : WindowId)
  | setText (id : WindowId) (text : String)
  | setIcon (id : WindowId) (icon : Option Icon)
  | surfaceAvailable (id : WindowId) (kind : Surface.Kind) (handle : Surface.Handle)
  | surfaceDestroyed (id : WindowId) (kind : Surface.Kind)
  | viewVisibility (id : WindowId) (kind : Surface.Kind) (visible : Bool)
  | activityStarted
  | activityStopped
deriving DecidableEq, Repr

/-- The change that an event makes. -/
def Tree.change (tree : Tree) (hasViews : WindowId → Bool) : TreeEvent → Except Failure Change
  | .createDesktop id => tree.createDesktop id
  | .create id parent scale accelerated process =>
    tree.create hasViews id parent scale accelerated process
  | .startAccelerated id => tree.startAccelerated id
  | .destroy id => .ok (tree.destroy id)
  | .reparent id parent scale => tree.reparent hasViews id parent scale
  | .position id placement => tree.position hasViews id placement
  | .focus id => tree.focus id
  | .setText id text => tree.setText id text
  | .setIcon id icon => tree.setIcon id icon
  | .surfaceAvailable id kind handle => tree.surfaceAvailable id kind handle
  | .surfaceDestroyed id kind => tree.surfaceDestroyed id kind
  | .viewVisibility id kind visible => tree.viewVisibility id kind visible
  | .activityStarted => .ok tree.activityStarted
  | .activityStopped => .ok tree.activityStopped

/-- The tree of windows and the scene that shows them. -/
structure Desk where
  tree : Tree := {}
  scene : Scene := {}
deriving DecidableEq

/-- What an event sends out: calls into the window manager and lines of the log, in order. -/
structure Output where
  calls : List Call := []
  notices : List Notice := []
deriving DecidableEq, Repr

namespace Output

def append (first second : Output) : Output :=
  ⟨first.calls ++ second.calls, first.notices ++ second.notices⟩

instance : Append Output := ⟨append⟩

end Output

namespace Desk

/-- A desk without windows, whose fresh client containers get a reserved content object or not. -/
def fresh (reserveFront : Bool) : Desk :=
  { scene := { reserveFront } }

/-- Carry out a change. -/
def carryOut (desk : Desk) (change : Change) : Desk × Output :=
  ({ tree := change.tree, scene := desk.scene.performAll change.commands },
    { calls := change.calls, notices := change.notices ++ desk.scene.reportAll change.commands })

/-- The desk after an event, and what the event sends out. -/
def apply (desk : Desk) (event : TreeEvent) : Except Failure (Desk × Output) :=
  (desk.tree.change desk.scene.hasViews event).map desk.carryOut

/-- The desk after an event that may be refused. Only a layout that leaves the coordinates ends
the run. -/
def step (desk : Desk) (event : TreeEvent) : Except Interruption (Desk × Output) :=
  match desk.apply event with
  | .ok result => .ok result
  | .error (.refused _) => .ok (desk, {})
  | .error (.interrupted interruption) => .error interruption

/-- The desk after some events, and all that they send out. -/
def run (desk : Desk) : List TreeEvent → Except Interruption (Desk × Output)
  | [] => .ok (desk, {})
  | event :: rest => do
    let (next, output) ← desk.step event
    let (last, later) ← (next.run rest).mapError (·.behind output.calls)
    pure (last, output ++ later)

end Desk

end WindowRelay
