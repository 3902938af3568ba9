import WindowRelay.Notice
import WindowRelay.Scene.Command
import WindowRelay.Tree.Stacking
import WindowRelay.Window.Table

/-!
Contract: the tree of windows that the window manager has told about.

Owns:
- the tree, look-up, and the elementary changes of its links;
- the chain of ancestors and the subtree of a window;
- the title that the activity should show, and the one that was last announced.

Does not own: the window events (`Tree.Event`).

Parent links, child lists and the top-level order are kept side by side, so that each is read in
one step. Both walks are bounded by the number of windows, which no chain of distinct windows
exceeds.
-/

namespace WindowRelay

/-- The windows, the order of the top-level ones back to front, and the desktop window. -/
structure Tree where
  nodes : Table Node := ∅
  order : List WindowId := []
  desktop : Option WindowId := none
  /-- host pixels per unit of the window manager -/
  dpiScale : Binary32 := Binary32.one
  /-- the title that the host was last told to show -/
  announced : Option ActivityTitle := none
deriving DecidableEq

namespace Tree

def node? (tree : Tree) (id : WindowId) : Option Node :=
  tree.nodes.get? id

def isLive (tree : Tree) (id : WindowId) : Bool :=
  tree.nodes.contains id

def size (tree : Tree) : Nat :=
  tree.nodes.size

/-- A live window for which `test` holds. -/
def holds (tree : Tree) (test : Node → Bool) (id : WindowId) : Bool :=
  (tree.node? id).any test

def isVisible (tree : Tree) (id : WindowId) : Bool :=
  tree.holds Node.visible id

def isTopmost (tree : Tree) (id : WindowId) : Bool :=
  tree.holds Node.topmost id

def parent? (tree : Tree) (id : WindowId) : Option WindowId :=
  (tree.node? id).bind Node.parent

def children (tree : Tree) (id : WindowId) : List WindowId :=
  ((tree.node? id).map Node.children).getD []

/-! ## Elementary changes -/

def addNode (tree : Tree) (node : Node) : Tree :=
  { tree with nodes := tree.nodes.insert node.id node }

def dropNode (tree : Tree) (id : WindowId) : Tree :=
  { tree with nodes := tree.nodes.erase id }

def updateNode (tree : Tree) (id : WindowId) (change : Node → Node) : Tree :=
  { tree with nodes := tree.nodes.modify id change }

/-- Make a window the front-most child of a parent. -/
def appendChild (tree : Tree) (parent id : WindowId) : Tree :=
  tree.updateNode parent fun node => { node with children := node.children ++ [id] }

/-- Take a window out of the children of its parent, if it has one. -/
def unlink (tree : Tree) (parent : Option WindowId) (id : WindowId) : Tree :=
  match parent with
  | some parent =>
    tree.updateNode parent fun node => { node with children := Stacking.without node.children id }
  | none => tree

def listTopLevel (tree : Tree) (id : WindowId) : Tree :=
  { tree with order := Stacking.added tree.order id }

def unlistTopLevel (tree : Tree) (id : WindowId) : Tree :=
  { tree with order := Stacking.without tree.order id }

/-! ## Walks -/

/-- The chain of parents above a window, nearest first, cut after a number of steps. -/
def ancestorsWithin (tree : Tree) : Nat → WindowId → List WindowId
  | 0, _ => []
  | steps + 1, id =>
    match tree.parent? id with
    | some parent => parent :: ancestorsWithin tree steps parent
    | none => []

/-- The chain of parents above a window, nearest first. -/
def ancestors (tree : Tree) (id : WindowId) : List WindowId :=
  tree.ancestorsWithin tree.size id

/-- A window sits somewhere below another one. -/
def isBelow (tree : Tree) (candidate ancestor : WindowId) : Bool :=
  (tree.ancestors candidate).contains ancestor

/-- A window and everything below it, cut below a number of levels: the front-most child first,
every window after its children. -/
def subtreeWithin (tree : Tree) : Nat → WindowId → List WindowId
  | 0, _ => []
  | levels + 1, id =>
    if tree.isLive id then
      (tree.children id).reverse.flatMap (subtreeWithin tree levels) ++ [id]
    else []

/-- A window and everything below it, in the order in which they are torn down. -/
def subtree (tree : Tree) (id : WindowId) : List WindowId :=
  tree.subtreeWithin tree.size id

/-- Give a window and everything below it one scale. -/
def rescale (tree : Tree) (id : WindowId) (scale : Binary32) : Tree :=
  let windows := tree.subtree id
  { tree with
    nodes := tree.nodes.mapWithKey fun key node =>
      if key ∈ windows then { node with scale } else node }

/-! ## Stacking -/

/-- Apply a resolved directive to the top-level order and to the flag of the window. -/
def place (tree : Tree) (window : WindowId) (directive : Directive) : Tree :=
  { tree.updateNode window (fun node => node.setTopmost (directive.flagAfter node.topmost)) with
    order := Stacking.restacked tree.isTopmost tree.order window directive }

def orderMark (tree : Tree) (id : WindowId) : OrderMark where
  id := id
  hidden := tree.holds (fun node => !node.visible) id
  minimized := tree.holds Node.minimized id
  topmost := tree.isTopmost id

/-- Apply a directive to a top-level window. The order is reported in any case. -/
def restack (tree : Tree) (window : WindowId) (directive : Directive) :
    Except WindowError (Tree × List Notice) :=
  if directive = .after window then .error (.selfReference window)
  else if !tree.isLive window then .error (.unknownWindow window)
  else
    let resolved := directive.resolve tree.order
    let unresolved : List Notice :=
      match directive with
      | .after reference =>
        if reference ∈ tree.order then [] else [.unresolvedReference reference]
      | _ => []
    let placed := tree.place window resolved
    .ok (placed, unresolved ++ [.topLevelOrder (placed.order.map placed.orderMark)])

/-- Apply a directive to a child among its siblings. A window without a live parent stays where
it is. -/
def restackChild (tree : Tree) (window : WindowId) (directive : Directive) :
    Except WindowError (Tree × List Notice) :=
  if directive = .after window then .error (.selfReference window)
  else if !tree.isLive window then .error (.unknownWindow window)
  else
    match tree.parent? window with
    | none => .ok (tree, [])
    | some parent =>
      if !tree.isLive parent then .ok (tree, [])
      else
        let placed := tree.updateNode parent fun node =>
          { node with children := Stacking.restackedChildren node.children window directive }
        .ok (placed, [.childOrder parent
          ((placed.children parent).map fun child => (child, placed.isVisible child))])

/-- The windows that the desktop container keeps in order, back to front. -/
def stackedWindows (tree : Tree) : List WindowId :=
  tree.order.filter (tree.holds Node.stackedVisible)

/-- The visible children of a window, back to front. -/
def visibleChildren (tree : Tree) (id : WindowId) : List WindowId :=
  (tree.children id).filter tree.isVisible

/-! ## Commands that follow from links -/

/-- Attach the view of a window to its parent, behind the siblings in front of it. -/
def attachCommands (tree : Tree) (id : WindowId) : List Scene.Command :=
  match tree.parent? id with
  | some parent =>
    match tree.node? parent with
    | some node => [.attach parent id (node.children.takeWhile (· != id))]
    | none => []
  | none => []

def detachCommands (tree : Tree) (id : WindowId) : List Scene.Command :=
  match tree.parent? id with
  | some parent => [.remove (.client parent) id]
  | none => []

/-- Bring the client container of a window in line with its visible children. -/
def alignChildrenCommands (tree : Tree) (parent : WindowId) : List Scene.Command :=
  if tree.isLive parent then [.alignChildren parent (tree.visibleChildren parent)] else []

/-- Bring the desktop container in line with the top-level order. -/
def alignDesktopCommand (tree : Tree) : Scene.Command :=
  .alignDesktop tree.stackedWindows

/-! ## The activity title -/

/-- The title of the front-most top-level window that gives one. -/
def frontTitle (tree : Tree) : Option ActivityTitle :=
  tree.order.reverse.findSome? fun id => (tree.node? id).bind Node.activityTitle

/-- Announce the front title, if it differs from the last one announced. -/
def announce (tree : Tree) : Tree :=
  { tree with announced := tree.frontTitle }

def announceCommands (tree : Tree) : List Scene.Command :=
  if tree.frontTitle = tree.announced then [] else [.setTitle tree.frontTitle]

end Tree

end WindowRelay
