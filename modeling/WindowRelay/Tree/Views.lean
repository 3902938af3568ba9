import WindowRelay.Tree.Change

/-!
Contract: the views that windows get in the host.

Owns:
- the commands that set up the views of a top-level window and of a child;
- the windows above a window whose views have to be set up first.

Layouts are worked out in the order in which they are sent, so the first one that leaves the
coordinates decides the fault.
-/

namespace WindowRelay

namespace Tree

/-- A client content view gets a footprint of one unit until its backing shows up. -/
def clientContentCommands (id : WindowId) : List Scene.Command :=
  [.createContent id .client, .layout id .client Layout.kickoff]

/-- The client content view of an accelerated window. -/
def acceleratedCommands (tree : Tree) (id : WindowId) : List Scene.Command :=
  if tree.holds Node.accelerated id then clientContentCommands id else []

/-- Views, whole content and desktop slot of a top-level window, behind every other window. -/
def topLevelViews (node : Node) : Except Overflow (List Scene.Command) := do
  let whole ← node.wholePlace
  let client ← Layout.padded (← node.clientLayout)
  pure
    [.createViews node.id,
     .createContent node.id .whole,
     .setFocusable node.id node.visible,
     .insert .desktop node.id 0,
     .layout node.id .whole whole,
     .layout node.id .client client]

/-- The views of a child, attached to its parent if it is visible. A window without a parent
gets views that are attached to nothing. -/
def childViews (tree : Tree) (node : Node) : Except Overflow (List Scene.Command) := do
  let client ← Layout.padded (← node.clientLayout)
  let base : List Scene.Command := [.createViews node.id, .layout node.id .client client]
  match node.parent with
  | none => pure base
  | some _ =>
    let whole ← Layout.padded node.visibleRect
    pure (base ++ [.layout node.id .whole whole] ++
      if node.visible then tree.attachCommands node.id else [])

/-- A window and the chain above it as far as views are missing, topmost first. -/
def missingViews (tree : Tree) (hasViews : WindowId → Bool) (id : WindowId) : List WindowId :=
  ((id :: tree.ancestors id).takeWhile fun window => !hasViews window).reverse

/-- Set up the views of some windows, one after the other; unknown windows are passed over. -/
def viewsOfAll (tree : Tree) : List WindowId → Except Overflow (List Scene.Command)
  | [] => pure []
  | id :: rest => do
    let here ←
      match tree.node? id with
      | some node => tree.childViews node
      | none => pure []
    pure (here ++ (← viewsOfAll tree rest))

/-- Set up the views of a window, the windows above it first. -/
def ensureViews (tree : Tree) (hasViews : WindowId → Bool) (id : WindowId) :
    Except Overflow (List Scene.Command) :=
  tree.viewsOfAll (tree.missingViews hasViews id)

/-- Attach the visible children of a window again, back to front. -/
def reattachCommands (tree : Tree) (id : WindowId) : List Scene.Command :=
  (tree.visibleChildren id).flatMap tree.attachCommands

end Tree

end WindowRelay
