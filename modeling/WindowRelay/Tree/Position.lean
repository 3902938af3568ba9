import WindowRelay.Tree.Views

/-!
Contract: changes of position, style and stacking.

Owns:
- the placement that the window manager reports;
- its effect on the desktop window, on top-level windows and on children.

A placement is worked out in the order: client layout, place of the whole container, footprint of
the client container. The first of them that leaves the coordinates decides the fault.
-/

namespace WindowRelay

/-- A change of position, style and stacking. -/
structure Placement where
  flags : PositionFlags
  insertAfter : UInt32
  owner : WindowId
  style : Style
  windowRect : Rect
  clientRect : Rect
  visibleRect : Rect
deriving DecidableEq, Repr

def Placement.directive (placement : Placement) : Directive :=
  Directive.ofInsertAfter placement.insertAfter

def Placement.reorders (placement : Placement) : Bool :=
  placement.flags.reorders

/-- A node with the rectangles, style and owner of a placement. -/
def Node.placed (node : Node) (placement : Placement) : Node :=
  { node with
    windowRect := placement.windowRect
    clientRect := placement.clientRect
    visibleRect := placement.visibleRect
    style := placement.style
    owner := placement.owner }

namespace Tree

def store (tree : Tree) (id : WindowId) (placement : Placement) : Tree :=
  tree.updateNode id (·.placed placement)

/-- The focus of a top-level window follows its visibility. -/
def focusCommands (id : WindowId) (before after : Bool) : List Scene.Command :=
  if before = after then [] else [.setFocusable id after]

def positionTopLevel (tree : Tree) (node : Node) (placement : Placement) :
    Except Failure Change := do
  let placed := node.placed placement
  let stored := tree.store node.id placement
  let client ← placed.clientLayout
  let whole ← placed.wholePlace
  let footprint ← Layout.padded client
  let (stacked, notices) ←
    if placement.reorders then stored.restack node.id placement.directive else pure (stored, [])
  let resync := placement.reorders || node.visible != placed.visible ||
    node.minimized != placed.minimized
  pure (Change.announcing
    { tree := stacked
      commands := [.layout node.id .whole whole] ++
        focusCommands node.id node.visible placed.visible ++
        [.layout node.id .client footprint] ++
        (if resync then [stacked.alignDesktopCommand] else [])
      notices })

/-- What happens to the view of a child in its parent after a placement. -/
def childViewCommands (tree : Tree) (parent id : WindowId) (before after reorders : Bool) :
    List Scene.Command :=
  if !before && after then tree.attachCommands id
  else if before && !after then tree.detachCommands id
  else if after && reorders then tree.alignChildrenCommands parent
  else []

def positionChild (tree : Tree) (hasViews : WindowId → Bool) (node : Node)
    (placement : Placement) : Except Failure Change := do
  let placed := node.placed placement
  let stored := tree.store node.id placement
  let client ← placed.clientLayout
  let (stacked, notices) ←
    if placement.reorders && node.parent.isSome then
      stored.restackChild node.id placement.directive
    else pure (stored, [])
  if hasViews node.id then
    let inParent ←
      match node.parent with
      | none => pure []
      | some parent =>
        let whole ← Layout.padded placed.visibleRect
        pure (.layout node.id .whole whole ::
          stacked.childViewCommands parent node.id node.visible placed.visible placement.reorders)
    let footprint ← Layout.padded client
    pure { tree := stacked, commands := inParent ++ [.layout node.id .client footprint], notices }
  else
    pure { tree := stacked, notices }

/-- Apply a placement. A window cannot be stacked after itself. -/
def position (tree : Tree) (hasViews : WindowId → Bool) (id : WindowId) (placement : Placement) :
    Except Failure Change :=
  match tree.node? id with
  | none => .error (.refused (.unknownWindow id))
  | some node =>
    if placement.reorders && placement.directive = .after id then
      .error (.refused (.selfReference id))
    else
      match node.kind with
      | .desktop => .ok { tree := tree.store id placement }
      | .topLevel _ => tree.positionTopLevel node placement
      | .child => tree.positionChild hasViews node placement

end Tree

end WindowRelay
