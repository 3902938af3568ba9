import WindowRelay.Tree.Lifetime

/-!
Contract: windows that move under another parent.

Owns:
- which moves are refused, and for which reason;
- the three moves: top-level to child, child to top-level, child to another parent.

A change between top-level and child rebuilds the views of the window, so its surfaces are
released, and the window manager is told so before the layouts of the new views are worked out;
between two parents a window keeps its views.
-/

namespace WindowRelay

namespace Tree

/-- Why a window cannot move under a parent, if it cannot. Zero stands for the top level. -/
def moveRefusal (tree : Tree) (id parent : WindowId) : Option WindowError :=
  match tree.node? id with
  | none => some (.unknownTarget id)
  | some node =>
    if node.kind = .desktop then some (.misplaced id parent .desktopIsFixed)
    else if parent = WindowId.absent then none
    else if parent = id then some (.misplaced id parent .ownParent)
    else if !tree.isLive parent then some (.unknownTarget parent)
    else if tree.isBelow parent id then some (.misplaced id parent .underDescendant)
    else none

/-- The links after a top-level window became the front-most child of a parent. -/
def demoted (tree : Tree) (id parent : WindowId) : Tree :=
  ((tree.unlistTopLevel id).updateNode id fun node =>
    { node with kind := .child, parent := some parent, surfaces := {} }).appendChild parent id

/-- The links after a child became a top-level window at the back of the normal band. -/
def promoted (tree : Tree) (id : WindowId) : Tree :=
  ((tree.unlink (tree.parent? id) id).updateNode id fun node =>
    { node with kind := .topLevel false, parent := none, surfaces := {} }).listTopLevel id

/-- The links after a child became the front-most child of another parent. -/
def moved (tree : Tree) (id parent : WindowId) : Tree :=
  ((tree.unlink (tree.parent? id) id).updateNode id fun node =>
    { node with parent := some parent }).appendChild parent id

/-- The last commands for a window whose views were rebuilt. -/
def rebuiltCommands (tree : Tree) (id : WindowId) : List Scene.Command :=
  tree.acceleratedCommands id ++ tree.reattachCommands id ++ [tree.alignDesktopCommand]

def demote (tree : Tree) (hasViews : WindowId → Bool) (node : Node) (parent : WindowId) :
    Except Failure Change := do
  let after := tree.demoted node.id parent
  let views ← Interruption.after (releaseCalls node)
    (after.ensureViews (fun window => window != node.id && hasViews window) node.id)
  pure (Change.announcing
    { tree := after
      commands := [.remove .desktop node.id, .destroyViews node.id] ++ views ++
        after.rebuiltCommands node.id
      calls := releaseCalls node })

def promote (tree : Tree) (node : Node) : Except Failure Change := do
  let after := tree.promoted node.id
  let views ← Interruption.after (releaseCalls node)
    (topLevelViews { node with kind := .topLevel false, parent := none, surfaces := {} })
  pure (Change.announcing
    { tree := after
      commands := tree.detachCommands node.id ++ [.destroyViews node.id] ++ views ++
        after.rebuiltCommands node.id
      calls := releaseCalls node })

def move (tree : Tree) (hasViews : WindowId → Bool) (node : Node) (parent : WindowId) :
    Except Failure Change := do
  let after := tree.moved node.id parent
  let detach := if node.visible then tree.detachCommands node.id else []
  let above ← after.ensureViews hasViews parent
  let here ←
    if hasViews node.id then do
      let whole ← Layout.padded node.visibleRect
      pure (.layout node.id .whole whole ::
        if node.visible then after.attachCommands node.id else [])
    else
      let missing := after.missingViews hasViews parent
      after.ensureViews (fun window => hasViews window || missing.contains window) node.id
  pure { tree := after, commands := detach ++ above ++ here }

/-- Move a window under a parent, or to the top level, and give its subtree one scale. -/
def reparent (tree : Tree) (hasViews : WindowId → Bool) (id parent : WindowId)
    (scale : Binary32) : Except Failure Change := do
  if let some error := tree.moveRefusal id parent then throw (.refused error)
  match tree.node? id with
  | none => throw (.refused (.unknownTarget id))
  | some node =>
    let change : Change ←
      if parent = WindowId.absent then
        if node.parent.isSome then tree.promote node else pure { tree }
      else if node.isTopLevel then tree.demote hasViews node parent
      else if node.parent = some parent then pure { tree }
      else tree.move hasViews node parent
    pure { change with tree := change.tree.rescale id scale }

end Tree

end WindowRelay
