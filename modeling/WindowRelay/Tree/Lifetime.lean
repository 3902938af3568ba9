import WindowRelay.Tree.Views

/-!
Contract: windows that come and go.

Owns:
- creation of the desktop window, of top-level windows and of children;
- the switch to accelerated rendering;
- destruction of a window together with everything below it.
-/

namespace WindowRelay

namespace Tree

/-- Register the desktop window. Its view is the background of the desktop container. -/
def createDesktop (tree : Tree) (id : WindowId) : Except Failure Change :=
  if tree.desktop.isSome then .error (.refused .desktopAlreadyCreated)
  else if tree.isLive id then .error (.refused (.alreadyExists id))
  else
    .ok { tree := { tree.addNode { id, kind := .desktop } with desktop := some id } }

/-- Switch a window to accelerated rendering, which gives it a client content view. -/
def accelerate (tree : Tree) (id : WindowId) : Change where
  tree := tree.updateNode id fun node => { node with accelerated := true }
  commands := clientContentCommands id

/-- Accelerated rendering of a window that has to be live. -/
def startAccelerated (tree : Tree) (id : WindowId) : Except Failure Change :=
  if tree.isLive id then .ok (tree.accelerate id) else .error (.refused (.unknownWindow id))

/-- A window without a parent, hosted in the desktop container. -/
def createTopLevel (tree : Tree) (id : WindowId) (scale : Binary32) (process : UInt32) :
    Except Failure Change := do
  let node : Node := { id, kind := .topLevel false, scale, process }
  let commands ← topLevelViews node
  pure { tree := (tree.addNode node).listTopLevel id, commands }

/-- A window inside its parent, or detached if it has none. -/
def createChild (tree : Tree) (hasViews : WindowId → Bool) (id : WindowId)
    (parent : Option WindowId) (scale : Binary32) (process : UInt32) : Except Failure Change := do
  let linked ←
    match parent with
    | none => pure tree
    | some parent =>
      if tree.isLive parent then pure (tree.appendChild parent id)
      else throw (.refused (.unknownParent id parent))
  let created := linked.addNode { id, kind := .child, scale, process, parent }
  let commands ← created.ensureViews hasViews id
  pure { tree := created, commands }

/-- A new window. Without a parent it becomes a top-level window at the back of the normal band;
the message-only window and every window with a parent become children. Asking again for a live
window only starts accelerated rendering. -/
def create (tree : Tree) (hasViews : WindowId → Bool) (id parent : WindowId) (scale : Binary32)
    (accelerated : Bool) (process : UInt32) : Except Failure Change :=
  if id = WindowId.absent then .error (.refused (.misplaced id parent .reservedId))
  else if tree.isLive id then
    if accelerated then .ok (tree.accelerate id) else .error (.refused (.alreadyExists id))
  else do
    let created ←
      if parent = WindowId.absent && id != WindowId.messageOnly then
        tree.createTopLevel id scale process
      else
        tree.createChild hasViews id (if parent = WindowId.absent then none else some parent)
          scale process
    pure (if accelerated then created.followedBy (·.accelerate id) else created)

/-- Tear down one window, whose children are gone already. -/
def destroyOne (tree : Tree) (id : WindowId) : Change :=
  match tree.node? id with
  | none => { tree }
  | some node =>
    let rest := tree.dropNode id
    match node.kind with
    | .topLevel _ =>
      Change.announcing
        { tree := rest.unlistTopLevel id
          commands := [.remove .desktop id, .destroyViews id]
          calls := releaseCalls node }
    | .child =>
      { tree := rest.unlink node.parent id
        commands := tree.detachCommands id ++ [.destroyViews id]
        calls := releaseCalls node }
    | .desktop =>
      { tree := { rest with desktop := none }
        commands := [.destroyViews id]
        calls := releaseCalls node }

/-- Tear down a window and everything below it, children before their parents. An unknown window
is already gone. -/
def destroy (tree : Tree) (id : WindowId) : Change :=
  (tree.subtree id).foldl (fun change window => change.followedBy (·.destroyOne window)) { tree }

end Tree

end WindowRelay
