import WindowRelay.Tree.Views

/-!
Contract: events about one window that move nothing: focus, title, icon, surfaces, and the
activity coming and going.

Owns:
- the change that each of these events makes.

The window manager is told about every backing that the host reports and about every bound
backing that goes away.
-/

namespace WindowRelay

/-- The command that restores a minimized window. -/
def restoreCommand : UInt32 := 0xf120

namespace Tree

/-- A change of a live window, which is refused for any other. -/
def onLive (tree : Tree) (id : WindowId) (change : Node → Except Failure Change) :
    Except Failure Change :=
  match tree.node? id with
  | none => .error (.refused (.unknownWindow id))
  | some node => change node

/-- A window received the focus; only a top-level window takes it. -/
def focus (tree : Tree) (id : WindowId) : Except Failure Change :=
  tree.onLive id fun node =>
    if node.isTopLevel then
      .ok (Change.announcing { tree, commands := [.setFocusable id true] })
    else .ok { tree }

/-- Announce the front title if the changed window is a top-level one. -/
def announcingIf (topLevel : Bool) (change : Change) : Change :=
  if topLevel then change.announcing else change

def setText (tree : Tree) (id : WindowId) (text : String) : Except Failure Change :=
  tree.onLive id fun node =>
    .ok (announcingIf node.isTopLevel
      { tree := tree.updateNode id fun node => { node with title := some text } })

def setIcon (tree : Tree) (id : WindowId) (icon : Option Icon) : Except Failure Change :=
  tree.onLive id fun node =>
    .ok (announcingIf node.isTopLevel
      { tree := tree.updateNode id fun node => { node with icon } })

/-- A hidden top-level window whose backing has just come leaves the screen altogether. -/
def parkingCommands (node : Node) (kind : Surface.Kind) : Except Overflow (List Scene.Command) :=
  if kind = .whole && node.isTopLevel && !node.visible && node.surfaces.whole.isNone then do
    let place ← Layout.offscreen node.visibleRect false
    pure [.layout node.id .whole place]
  else pure []

/-- A client backing that was not known before gets its real layout. -/
def restoringCommands (node : Node) (kind : Surface.Kind) (outcome : Surface.Outcome) :
    Except Overflow (List Scene.Command) :=
  if outcome = .fresh && kind = .client then do
    let client ← Layout.padded (← node.clientLayout)
    pure [.layout node.id .client client]
  else pure []

/-- The host allocated or resized the backing of a content view. -/
def surfaceAvailable (tree : Tree) (id : WindowId) (kind : Surface.Kind)
    (handle : Surface.Handle) : Except Failure Change :=
  tree.onLive id fun node => do
    let parking ← parkingCommands node kind
    let (surfaces, outcome) := node.surfaces.bind kind handle
    let restoring ← restoringCommands node kind outcome
    pure
      { tree := tree.updateNode id fun node => { node with surfaces }
        commands := parking ++ restoring
        calls := [.surfaceChanged id (some handle) kind.isClient] }

/-- The host dropped a backing. -/
def surfaceDestroyed (tree : Tree) (id : WindowId) (kind : Surface.Kind) : Except Failure Change :=
  tree.onLive id fun node =>
    let (surfaces, released) := node.surfaces.release kind
    .ok
      { tree := tree.updateNode id fun node => { node with surfaces }
        calls := if released.isSome then [.surfaceChanged id none kind.isClient] else [] }

/-- A content view became visible or invisible on the host; a visible one is announced again. -/
def viewVisibility (tree : Tree) (id : WindowId) (kind : Surface.Kind) (visible : Bool) :
    Except Failure Change :=
  tree.onLive id fun node =>
    .ok
      { tree
        calls :=
          match node.surfaces.get kind with
          | some handle =>
            if visible then [.surfaceChanged id (some handle) kind.isClient] else []
          | none => [] }

/-- The activity came to the foreground: minimized windows are asked to restore themselves. -/
def activityStarted (tree : Tree) : Change where
  tree
  commands := (tree.order.filter tree.isLive).map fun id => .setShown id true
  calls := (tree.order.filter (tree.holds Node.minimized)).map fun id =>
    .systemCommand id restoreCommand

/-- The activity went to the background. Bindings are kept. -/
def activityStopped (tree : Tree) : Change where
  tree
  commands := tree.order.map fun id => .setShown id false

end Tree

end WindowRelay
