import WindowRelay.Proofs.Desk.Containers

/-!
Contract: the work on an event, done step by step on the desk itself.

Owns:
- work that changes tree and host as it goes, and whose refusal takes nothing back;
- every event as such work, with each check at the place where the event makes it;
- on a desk that shows its forest, the work on an event ends as the change of the event says.

A change is worked out before anything is carried out, so by itself it cannot say what an event
leaves behind that is refused half-way. Work can: a window is listed by its parent before it has a
node, and a placement is stored and laid out before the window is stacked. The proofs follow the
work along a change that collects what was done by then.

Does not own: which events are refused (`Proofs.Desk.Refusals`).
-/

namespace WindowRelay

theorem Scene.reportAll_append (scene : Scene) (first second : List Scene.Command) :
    scene.reportAll (first ++ second) =
      scene.reportAll first ++ (scene.performAll first).reportAll second := by
  induction first generalizing scene with
  | nil => rfl
  | cons command rest inductionHypothesis =>
      simp only [List.cons_append, Scene.reportAll, inductionHypothesis, List.append_assoc,
        Scene.performAll_cons]

/-- Work on a desk. What was done and sent out before a refusal stays done; an interruption ends
the session and leaves no desk. -/
abbrev Work := ExceptT WindowError (StateT (Desk × Output) (Except Interruption))

namespace Work

variable {α β : Type}

/-! ## Steps -/

/-- The tree as it is now. -/
def tree : Work Tree := fun (desk, output) => .ok (.ok desk.tree, desk, output)

/-- Which windows have views now. -/
def hosted : Work (WindowId → Bool) := fun (desk, output) =>
  .ok (.ok desk.scene.hasViews, desk, output)

/-- Change the tree. -/
def alter (edit : Tree → Tree) : Work Unit := fun (desk, output) =>
  .ok (.ok (), { desk with tree := edit desk.tree }, output)

/-- Give commands to the host. -/
def perform (commands : List Scene.Command) : Work Unit := fun (desk, output) =>
  .ok (.ok (), { desk with scene := desk.scene.performAll commands },
    { output with notices := output.notices ++ desk.scene.reportAll commands })

/-- Call the window manager. -/
def send (calls : List Call) : Work Unit := fun (desk, output) =>
  .ok (.ok (), desk, { output with calls := output.calls ++ calls })

/-- Write lines of the log. -/
def note (notices : List Notice) : Work Unit := fun (desk, output) =>
  .ok (.ok (), desk, { output with notices := output.notices ++ notices })

/-- Work out a layout; the calls that went out by now are not taken back. -/
def compute (outcome : Except Overflow α) : Work α := fun (desk, output) =>
  (Interruption.after output.calls outcome).map fun value => (.ok value, desk, output)

/-- Give up on the event. -/
def refuse (error : WindowError) : Work α := fun progress => .ok (.error error, progress)

/-! ## Parts of events -/

def refreshTitle : Work Unit := do
  perform (← tree).announceCommands
  alter Tree.announce

/-- The views of a window and of the windows above it, as far as they are missing. -/
def ensureViews (id : WindowId) : Work Unit := do
  perform (← compute ((← tree).ensureViews (← hosted) id))

/-- The views of a top-level window. -/
def hostTopLevel (id : WindowId) : Work Unit := do
  match (← tree).node? id with
  | none => pure ()
  | some node => perform (← compute (Tree.topLevelViews node))

/-- Drop the views of a window and release its surfaces. -/
def discardViews (id : WindowId) : Work Unit := do
  match (← tree).node? id with
  | none => pure ()
  | some node => do
    send (releaseCalls node)
    alter (·.updateNode id fun node => { node with surfaces := {} })
  perform [.destroyViews id]

/-- The end of a change between top-level window and child. -/
def finishRebuilt (id : WindowId) : Work Unit := do
  perform ((← tree).acceleratedCommands id)
  perform ((← tree).reattachCommands id)
  perform [(← tree).alignDesktopCommand]
  refreshTitle

/-! ## Events -/

def createDesktop (id : WindowId) : Work Unit := do
  let found ← tree
  if found.desktop.isSome then refuse .desktopAlreadyCreated
  else if found.isLive id then refuse (.alreadyExists id)
  else do
    alter (·.addNode { id, kind := .desktop })
    alter ({ · with desktop := some id })

def startAccelerated (id : WindowId) : Work Unit := do
  if (← tree).isLive id then do
    alter (·.updateNode id fun node => { node with accelerated := true })
    perform (Tree.clientContentCommands id)
  else refuse (.unknownWindow id)

def createTopLevel (id : WindowId) (scale : Binary32) (process : UInt32) : Work Unit := do
  alter (·.addNode { id, kind := .topLevel false, scale, process })
  alter (·.listTopLevel id)
  hostTopLevel id

/-- The parent lists its new child. -/
def enlist (parent : Option WindowId) (id : WindowId) : Work Unit := do
  match parent with
  | none => pure ()
  | some parent =>
    if (← tree).isLive parent then alter (·.appendChild parent id)
    else refuse (.unknownParent id parent)

def createChild (id : WindowId) (parent : Option WindowId) (scale : Binary32)
    (process : UInt32) : Work Unit := do
  enlist parent id
  alter (·.addNode { id, kind := .child, scale, process, parent })
  ensureViews id

def create (id parent : WindowId) (scale : Binary32) (accelerated : Bool) (process : UInt32) :
    Work Unit := do
  if id = WindowId.absent then refuse (.misplaced id parent .reservedId)
  else if (← tree).isLive id then
    if accelerated then startAccelerated id else refuse (.alreadyExists id)
  else do
    if parent = WindowId.absent && id != WindowId.messageOnly then
      createTopLevel id scale process
    else createChild id (if parent = WindowId.absent then none else some parent) scale process
    -- The window is live by now, so this check has to pass.
    if accelerated then startAccelerated id else pure ()

/-- Tear down one window, whose children are gone already. -/
def takeDown (id : WindowId) : Work Unit := do
  match (← tree).node? id with
  | none => pure ()
  | some node => do
    alter (·.dropNode id)
    match node.kind with
    | .topLevel _ => do
      alter (·.unlistTopLevel id)
      perform [.remove .desktop id]
    | .child => do
      alter (·.unlink node.parent id)
      perform (match node.parent with | some parent => [.remove (.client parent) id] | none => [])
    | .desktop => alter ({ · with desktop := none })
    send (releaseCalls node)
    perform [.destroyViews id]
    if node.isTopLevel then refreshTitle else pure ()

def takeDownAll : List WindowId → Work Unit
  | [] => pure ()
  | id :: rest => do
    takeDown id
    takeDownAll rest

def destroy (id : WindowId) : Work Unit := do
  takeDownAll ((← tree).subtree id)

def demote (id parent : WindowId) : Work Unit := do
  alter (·.unlistTopLevel id)
  perform [.remove .desktop id]
  discardViews id
  alter (·.updateNode id fun node => { node with kind := .child, parent := some parent })
  alter (·.appendChild parent id)
  ensureViews id
  finishRebuilt id

def promote (id : WindowId) : Work Unit := do
  perform ((← tree).detachCommands id)
  alter fun tree => tree.unlink (tree.parent? id) id
  discardViews id
  alter (·.updateNode id fun node => { node with kind := .topLevel false, parent := none })
  alter (·.listTopLevel id)
  hostTopLevel id
  finishRebuilt id

def move (node : Node) (parent : WindowId) : Work Unit := do
  let before ← tree
  perform (if node.visible then before.detachCommands node.id else [])
  alter fun tree => tree.unlink (tree.parent? node.id) node.id
  alter (·.updateNode node.id fun node => { node with parent := some parent })
  alter (·.appendChild parent node.id)
  ensureViews parent
  if (← hosted) node.id then do
    perform [.layout node.id .whole (← compute (Layout.padded node.visibleRect))]
    let after ← tree
    perform (if node.visible then after.attachCommands node.id else [])
  else ensureViews node.id

def reparent (id parent : WindowId) (scale : Binary32) : Work Unit := do
  let found ← tree
  match found.moveRefusal id parent with
  | some error => refuse error
  | none =>
    match found.node? id with
    | none => refuse (.unknownTarget id)
    | some node => do
      if parent = WindowId.absent then
        if node.parent.isSome then promote id else pure ()
      else if node.isTopLevel then demote id parent
      else if node.parent = some parent then pure ()
      else move node parent
      alter (·.rescale id scale)

/-- Stack a window; a refusal comes after the placement was stored. -/
def stack (restack : Tree → Except WindowError (Tree × List Notice)) : Work Unit := do
  match restack (← tree) with
  | .error error => refuse error
  | .ok (stacked, notices) => do
    alter fun _ => stacked
    note notices

def positionTopLevel (id : WindowId) (placement : Placement) : Work Unit := do
  match (← tree).node? id with
  | none => refuse (.unknownWindow id)
  | some node => do
    let placed := node.placed placement
    alter (·.store id placement)
    let client ← compute placed.clientLayout
    perform [.layout id .whole (← compute placed.wholePlace)]
    perform (Tree.focusCommands id node.visible placed.visible)
    perform [.layout id .client (← compute (Layout.padded client))]
    if placement.reorders then stack (·.restack id placement.directive) else pure ()
    if placement.reorders || node.visible != placed.visible ||
        node.minimized != placed.minimized then
      perform [(← tree).alignDesktopCommand]
    else pure ()
    refreshTitle

/-- The views of a child follow its placement. -/
def layOutChild (node : Node) (placement : Placement) (client : Rect) : Work Unit := do
  if (← hosted) node.id then do
    match node.parent with
    | none => pure ()
    | some parent => do
      perform [.layout node.id .whole (← compute (Layout.padded placement.visibleRect))]
      perform ((← tree).childViewCommands parent node.id node.visible
        (node.placed placement).visible placement.reorders)
    perform [.layout node.id .client (← compute (Layout.padded client))]
  else pure ()

def positionChild (id : WindowId) (placement : Placement) : Work Unit := do
  match (← tree).node? id with
  | none => refuse (.unknownWindow id)
  | some node => do
    let placed := node.placed placement
    alter (·.store id placement)
    let client ← compute placed.clientLayout
    if placement.reorders && node.parent.isSome then
      stack (·.restackChild id placement.directive)
    else pure ()
    layOutChild node placement client

def position (id : WindowId) (placement : Placement) : Work Unit := do
  match (← tree).node? id with
  | none => refuse (.unknownWindow id)
  | some node =>
    if placement.reorders && placement.directive = .after id then refuse (.selfReference id)
    else
      match node.kind with
      | .desktop => alter (·.store id placement)
      | .topLevel _ => positionTopLevel id placement
      | .child => positionChild id placement

/-- Work on a live window, which is refused for any other. -/
def onLive (id : WindowId) (work : Node → Work Unit) : Work Unit := do
  match (← tree).node? id with
  | none => refuse (.unknownWindow id)
  | some node => work node

def focus (id : WindowId) : Work Unit :=
  onLive id fun node =>
    if node.isTopLevel then do
      perform [.setFocusable id true]
      refreshTitle
    else pure ()

/-- A change of title or icon. -/
def relabel (id : WindowId) (edit : Node → Node) : Work Unit :=
  onLive id fun node => do
    alter (·.updateNode id edit)
    if node.isTopLevel then refreshTitle else pure ()

def surfaceAvailable (id : WindowId) (kind : Surface.Kind) (handle : Surface.Handle) :
    Work Unit :=
  onLive id fun node => do
    perform (← compute (Tree.parkingCommands node kind))
    let (surfaces, outcome) := node.surfaces.bind kind handle
    alter (·.updateNode id fun node => { node with surfaces })
    perform (← compute (Tree.restoringCommands node kind outcome))
    send [.surfaceChanged id (some handle) kind.isClient]

def surfaceDestroyed (id : WindowId) (kind : Surface.Kind) : Work Unit :=
  onLive id fun node => do
    let (surfaces, released) := node.surfaces.release kind
    alter (·.updateNode id fun node => { node with surfaces })
    send (if released.isSome then [.surfaceChanged id none kind.isClient] else [])

def viewVisibility (id : WindowId) (kind : Surface.Kind) (visible : Bool) : Work Unit :=
  onLive id fun node =>
    match node.surfaces.get kind with
    | some handle =>
      send (if visible then [.surfaceChanged id (some handle) kind.isClient] else [])
    | none => pure ()

def activityStarted : Work Unit := do
  let found ← tree
  send ((found.order.filter (found.holds Node.minimized)).map fun id =>
    .systemCommand id restoreCommand)
  perform ((found.order.filter found.isLive).map fun id => .setShown id true)

def activityStopped : Work Unit := do
  perform ((← tree).order.map fun id => .setShown id false)

/-- The work on an event. -/
def onEvent : TreeEvent → Work Unit
  | .createDesktop id => createDesktop id
  | .create id parent scale accelerated process => create id parent scale accelerated process
  | .startAccelerated id => startAccelerated id
  | .destroy id => destroy id
  | .reparent id parent scale => reparent id parent scale
  | .position id placement => position id placement
  | .focus id => focus id
  | .setText id text => relabel id fun node => { node with title := some text }
  | .setIcon id icon => relabel id fun node => { node with icon }
  | .surfaceAvailable id kind handle => surfaceAvailable id kind handle
  | .surfaceDestroyed id kind => surfaceDestroyed id kind
  | .viewVisibility id kind visible => viewVisibility id kind visible
  | .activityStarted => activityStarted
  | .activityStopped => activityStopped

/-! ## Work beside a change

The laws are closed by a term that is not literally `rfl`, so that they rewrite as equations and a
long chain of them stays cheap to check. -/

/-- The work, on a desk that has carried out a change. -/
def on (work : Work α) (desk : Desk) (change : Change) :
    Except Interruption (Except WindowError α × Desk × Output) :=
  work.run.run (desk.carryOut change)

section Steps

variable (desk : Desk) (change : Change) (later : Unit → Work β)

@[simp] theorem on_refuse (error : WindowError) :
    (refuse error : Work α).on desk change = .ok (.error error, desk.carryOut change) := (rfl)

@[simp] theorem on_tree_bind (later : Tree → Work β) :
    (tree >>= later).on desk change = (later change.tree).on desk change := (rfl)

@[simp] theorem on_hosted_bind (later : (WindowId → Bool) → Work β) :
    (hosted >>= later).on desk change =
      (later (desk.scene.performAll change.commands).hasViews).on desk change := (rfl)

@[simp] theorem on_alter_bind (edit : Tree → Tree) :
    (alter edit >>= later).on desk change =
      (later ()).on desk { change with tree := edit change.tree } := (rfl)

@[simp] theorem on_alter (edit : Tree → Tree) :
    (alter edit).on desk change =
      .ok (.ok (), desk.carryOut { change with tree := edit change.tree }) := (rfl)

@[simp] theorem on_perform_bind (commands : List Scene.Command) :
    (perform commands >>= later).on desk change =
      (later ()).on desk { change with commands := change.commands ++ commands } := by
  have same : desk.carryOut { change with commands := change.commands ++ commands } =
      ({ tree := change.tree, scene := (desk.scene.performAll change.commands).performAll commands },
        { calls := change.calls
          notices := (desk.carryOut change).2.notices ++
            (desk.scene.performAll change.commands).reportAll commands }) := by
    simp [Desk.carryOut, Scene.performAll_append, Scene.reportAll_append]
  unfold on
  rw [same]
  rfl

@[simp] theorem on_perform (commands : List Scene.Command) :
    (perform commands).on desk change =
      .ok (.ok (), desk.carryOut { change with commands := change.commands ++ commands }) :=
  on_perform_bind desk change pure commands

@[simp] theorem on_send_bind (calls : List Call) :
    (send calls >>= later).on desk change =
      (later ()).on desk { change with calls := change.calls ++ calls } := (rfl)

@[simp] theorem on_send (calls : List Call) :
    (send calls).on desk change =
      .ok (.ok (), desk.carryOut { change with calls := change.calls ++ calls }) := (rfl)

@[simp] theorem on_compute_bind (outcome : Except Overflow α) (later : α → Work β) :
    (compute outcome >>= later).on desk change =
      (Interruption.after change.calls outcome).bind fun value => (later value).on desk change := by
  cases outcome <;> rfl

end Steps

/-! ## The work on each event -/

end Work

namespace Desk

/-- How the work on an event ends whose change is known. -/
def settle (desk : Desk) : Except Failure Change →
    Except Interruption (Except WindowError Unit × Desk × Output)
  | .ok change => .ok (.ok (), desk.carryOut change)
  | .error (.refused error) => .ok (.error error, desk, {})
  | .error (.interrupted interruption) => .error interruption

@[simp] theorem carryOut_nothing (desk : Desk) :
    desk.carryOut { tree := desk.tree } = (desk, {}) := rfl

section Settle

variable {γ : Type} (desk : Desk) (next : γ → Except Failure Change)

@[simp] theorem settle_ok (change : Change) :
    desk.settle (.ok change) = .ok (.ok (), desk.carryOut change) := rfl

@[simp] theorem settle_refused (error : WindowError) :
    desk.settle (.error (.refused error)) = .ok (.error error, desk, {}) := rfl

theorem settle_overflow (outcome : Except Overflow γ) :
    desk.settle (liftM outcome >>= next) =
      (Interruption.after [] outcome).bind fun value => desk.settle (next value) := by
  cases outcome <;> rfl

/-- Only what the work gives when it comes to its end matters. -/
theorem after_bind_congr {δ : Type} {calls : List Call} {outcome : Except Overflow γ}
    {first second : γ → Except Interruption δ}
    (same : ∀ value, outcome = .ok value → first value = second value) :
    (Interruption.after calls outcome).bind first =
      (Interruption.after calls outcome).bind second := by
  cases outcome with
  | ok value => exact same value rfl
  | error cause => rfl

theorem settle_interruption (outcome : Except Interruption γ) :
    desk.settle (liftM outcome >>= next) = outcome.bind fun value => desk.settle (next value) := by
  cases outcome <;> rfl

end Settle

end Desk

namespace Work

variable {α β : Type}

section Events

variable {desk : Desk} {change : Change} (later : Unit → Work β)

@[simp] theorem on_refreshTitle_bind (desk : Desk) (change : Change) :
    (refreshTitle >>= later).on desk change = (later ()).on desk change.announcing := by
  simp [refreshTitle, Change.announcing]

@[simp] theorem on_refreshTitle (desk : Desk) (change : Change) :
    refreshTitle.on desk change = .ok (.ok (), desk.carryOut change.announcing) :=
  on_refreshTitle_bind pure desk change

@[simp] theorem on_ensureViews_bind (desk : Desk) (change : Change) (id : WindowId) :
    (ensureViews id >>= later).on desk change =
      (Interruption.after change.calls (change.tree.ensureViews
        (desk.scene.performAll change.commands).hasViews id)).bind fun commands =>
      (later ()).on desk { change with commands := change.commands ++ commands } := by
  simp [ensureViews]

theorem on_hostTopLevel_bind (desk : Desk) {id : WindowId} {node : Node}
    (found : change.tree.node? id = some node) :
    (hostTopLevel id >>= later).on desk change =
      (Interruption.after change.calls (Tree.topLevelViews node)).bind fun commands =>
      (later ()).on desk { change with commands := change.commands ++ commands } := by
  simp [hostTopLevel, found]

theorem on_discardViews_bind (desk : Desk) {id : WindowId} {node : Node}
    (found : change.tree.node? id = some node) :
    (discardViews id >>= later).on desk change =
      (later ()).on desk
        { change with
          tree := change.tree.updateNode id fun node => { node with surfaces := {} }
          commands := change.commands ++ [.destroyViews id]
          calls := change.calls ++ releaseCalls node } := by
  simp [discardViews, found]

@[simp] theorem on_finishRebuilt_bind (desk : Desk) (change : Change) (id : WindowId) :
    (finishRebuilt id >>= later).on desk change =
      (later ()).on desk (Change.announcing
        { change with commands := change.commands ++ change.tree.rebuiltCommands id }) := by
  simp [finishRebuilt, Tree.rebuiltCommands]

/-! ### Windows that come -/

theorem on_createDesktop (desk : Desk) (id : WindowId) :
    (createDesktop id).on desk { tree := desk.tree } =
      desk.settle (desk.tree.createDesktop id) := by
  unfold createDesktop Tree.createDesktop
  rw [on_tree_bind]
  dsimp only
  by_cases registered : desk.tree.desktop.isSome = true
  · simp [registered, Desk.settle]
  · by_cases live : desk.tree.isLive id = true
    · simp [registered, live, Desk.settle]
    · simp [registered, live, Desk.settle]

theorem on_startAccelerated_of_live {id : WindowId} (live : change.tree.isLive id = true) :
    (startAccelerated id).on desk change =
      .ok (.ok (), desk.carryOut (change.followedBy (·.accelerate id))) := by
  simp [startAccelerated, live, Change.followedBy, Tree.accelerate]

theorem on_startAccelerated (desk : Desk) (id : WindowId) :
    (startAccelerated id).on desk { tree := desk.tree } =
      desk.settle (desk.tree.startAccelerated id) := by
  unfold Tree.startAccelerated
  by_cases live : desk.tree.isLive id = true
  · rw [on_startAccelerated_of_live live, if_pos live]
    rfl
  · simp [startAccelerated, live, Desk.settle]

section Finishing

variable {desk : Desk} {rest : Work Unit} {finish : Change → Change}

theorem on_createTopLevel_bind {id : WindowId} {scale : Binary32} {process : UInt32}
    (ends : ∀ created : Change, created.tree.isLive id = true →
      rest.on desk created = .ok (.ok (), desk.carryOut (finish created))) :
    (do createTopLevel id scale process; rest).on desk { tree := desk.tree } =
      desk.settle (do pure (finish (← desk.tree.createTopLevel id scale process))) := by
  let node := Tree.newNode id (.topLevel false) scale process none
  have found : ((desk.tree.addNode node).listTopLevel id).node? id = some node :=
    (Tree.node?_addNode desk.tree id node).trans (if_pos rfl)
  unfold createTopLevel Tree.createTopLevel
  simp only [bind_assoc, on_alter_bind, pure_bind]
  rw [on_hostTopLevel_bind _ desk found, Desk.settle_overflow]
  refine congrArg (Except.bind _) (funext fun commands => ?_)
  rw [ends _ (Tree.isLive_iff.mpr ⟨_, found⟩)]
  rfl

theorem on_createChild_bind {id : WindowId} {parent : Option WindowId} {scale : Binary32}
    {process : UInt32}
    (ends : ∀ created : Change, created.tree.isLive id = true →
      rest.on desk created = .ok (.ok (), desk.carryOut (finish created))) :
    (do createChild id parent scale process; rest).on desk { tree := desk.tree } =
      desk.settle (do
        pure (finish (← desk.tree.createChild desk.scene.hasViews id parent scale process))) := by
  let node := Tree.newNode id .child scale process parent
  have afterwards : ∀ linked : Tree,
      (do alter (·.addNode node); ensureViews id; rest).on desk { tree := linked } =
        desk.settle ((do
          let commands ← (linked.addNode node).ensureViews desk.scene.hasViews id
          pure { tree := linked.addNode node, commands }) >>=
            fun created => pure (finish created)) := by
    intro linked
    have live : (linked.addNode node).isLive id = true :=
      Tree.isLive_iff.mpr ⟨node, (Tree.node?_addNode linked id node).trans (if_pos rfl)⟩
    rw [on_alter_bind, on_ensureViews_bind, bind_assoc, Desk.settle_overflow]
    exact congrArg (Except.bind _) (funext fun commands => ends _ live)
  unfold createChild Tree.createChild enlist
  cases parent with
  | none => exact afterwards desk.tree
  | some parent =>
    simp only [bind_assoc]
    rw [on_tree_bind]
    by_cases live : desk.tree.isLive parent = true
    · simp only [live, if_true, on_alter_bind]
      exact afterwards (desk.tree.appendChild parent id)
    · simp only [live, Bool.false_eq_true, if_false]
      rfl

end Finishing

theorem on_create (desk : Desk) (id parent : WindowId) (scale : Binary32) (accelerated : Bool)
    (process : UInt32) :
    (create id parent scale accelerated process).on desk { tree := desk.tree } =
      desk.settle (desk.tree.create desk.scene.hasViews id parent scale accelerated process) := by
  unfold create Tree.create
  by_cases reserved : id = WindowId.absent
  · simp [reserved]
  rw [if_neg reserved, if_neg reserved, on_tree_bind]
  by_cases live : desk.tree.isLive id = true
  · rw [if_pos live, if_pos live]
    cases accelerated with
    | true => exact on_startAccelerated_of_live live
    | false => rfl
  rw [if_neg live, if_neg live]
  have ends : ∀ created : Change, created.tree.isLive id = true →
      (if accelerated then startAccelerated id else pure ()).on desk created =
        .ok (.ok (), desk.carryOut
          (if accelerated then created.followedBy (·.accelerate id) else created)) := by
    intro created isLive
    cases accelerated with
    | true => exact on_startAccelerated_of_live isLive
    | false => rfl
  by_cases topLevel : (decide (parent = WindowId.absent) && id != WindowId.messageOnly) = true
  · simp only [if_pos topLevel]
    exact on_createTopLevel_bind ends
  · simp only [if_neg topLevel]
    exact on_createChild_bind ends

/-! ### Windows that go -/

theorem on_takeDown_bind (desk : Desk) (change : Change) (id : WindowId) :
    (takeDown id >>= later).on desk change =
      (later ()).on desk (change.followedBy (·.destroyOne id)) := by
  unfold takeDown Change.followedBy Tree.destroyOne
  simp only [bind_assoc, on_tree_bind]
  cases found : change.tree.node? id with
  | none => simp
  | some node =>
      have detach : change.tree.detachCommands id =
          match node.parent with | some parent => [.remove (.client parent) id] | none => [] := by
        cases parentIs : node.parent <;>
          simp [Tree.detachCommands, Tree.parent?_of_node? found, parentIs]
      cases kindIs : node.kind with
      | topLevel flag =>
          have isTopLevel : node.isTopLevel = true := by simp [Node.isTopLevel, kindIs]
          simp [kindIs, isTopLevel, Change.announcing]
      | child =>
          have notTopLevel : node.isTopLevel = false := by simp [Node.isTopLevel, kindIs]
          simp [kindIs, notTopLevel, detach]
      | desktop =>
          have notTopLevel : node.isTopLevel = false := by simp [Node.isTopLevel, kindIs]
          simp [kindIs, notTopLevel]

theorem on_takeDownAll (desk : Desk) (change : Change) (windows : List WindowId) :
    (takeDownAll windows).on desk change = .ok (.ok (), desk.carryOut
      (windows.foldl (fun change window => change.followedBy (·.destroyOne window)) change)) := by
  induction windows generalizing change with
  | nil => rfl
  | cons window rest inductionHypothesis =>
      unfold takeDownAll
      rw [on_takeDown_bind, inductionHypothesis, List.foldl_cons]

theorem on_destroy (desk : Desk) (id : WindowId) :
    (destroy id).on desk { tree := desk.tree } = desk.settle (.ok (desk.tree.destroy id)) :=
  on_takeDownAll desk { tree := desk.tree } (desk.tree.subtree id)

/-! ### Windows that move -/

section Moving

variable {desk : Desk} {rest : Work Unit} {finish : Change → Change} {node : Node}

theorem on_demote_bind (found : desk.tree.node? node.id = some node) (parent : WindowId)
    (ends : ∀ moved : Change, rest.on desk moved = .ok (.ok (), desk.carryOut (finish moved))) :
    (do demote node.id parent; rest).on desk { tree := desk.tree } =
      desk.settle (do
        pure (finish (← desk.tree.demote desk.scene.hasViews node parent))) := by
  have views : (desk.scene.performAll [.remove .desktop node.id, .destroyViews node.id]).hasViews =
      fun window => window != node.id && desk.scene.hasViews window := by
    funext window
    simp [Scene.perform, Scene.hasViews_destroyViews, Scene.hasViews_remove]
  unfold demote Tree.demote Tree.demoted
  simp only [bind_assoc, on_alter_bind, on_perform_bind]
  rw [on_discardViews_bind _ desk found]
  simp only [on_alter_bind, on_ensureViews_bind, on_finishRebuilt_bind, List.nil_append,
    List.cons_append, Tree.updateNode_updateNode, views, ends, Desk.settle_interruption, pure_bind]
  rfl

theorem on_promote_bind (forest : desk.tree.Forest) (found : desk.tree.node? node.id = some node)
    (ends : ∀ moved : Change, rest.on desk moved = .ok (.ok (), desk.carryOut (finish moved))) :
    (do promote node.id; rest).on desk { tree := desk.tree } =
      desk.settle (do pure (finish (← desk.tree.promote node))) := by
  have unlinked := Tree.node?_unlink_self forest found
  have risen : (desk.tree.promoted node.id).node? node.id =
      some { node with kind := .topLevel false, parent := none, surfaces := {} } := by
    refine (Tree.node?_updateNode _ node.id node.id _).trans ?_
    rw [if_pos rfl, unlinked]
    rfl
  unfold promote Tree.promote
  simp only [bind_assoc, on_tree_bind, on_alter_bind, on_perform_bind]
  rw [on_discardViews_bind _ desk unlinked]
  simp only [on_alter_bind, Tree.updateNode_updateNode]
  rw [on_hostTopLevel_bind _ desk risen]
  simp only [on_finishRebuilt_bind, List.nil_append, ends, Desk.settle_interruption, pure_bind]
  refine congrArg (Except.bind _) (funext fun commands => ?_)
  simp only [List.append_assoc]
  rfl

theorem on_move_bind (shows : Shows desk.tree desk.scene) (forest : desk.tree.Forest)
    (found : desk.tree.node? node.id = some node) (isChild : node.kind = .child)
    {parent : WindowId} (admits : desk.tree.Admits node.id parent)
    (ends : ∀ moved : Change, rest.on desk moved = .ok (.ok (), desk.carryOut (finish moved))) :
    (do move node parent; rest).on desk { tree := desk.tree } =
      desk.settle (do
        pure (finish (← desk.tree.move desk.scene.hasViews node parent))) := by
  have rehomed := Tree.rehomed_moved forest found isChild admits
  have isHosted : desk.scene.hasViews node.id = true :=
    shows.hosting.views node.id .child (isChild ▸ Tree.kind?_of_node? found) (by simp)
  have detached := shows.detached forest found
  have views : (desk.scene.performAll
      (if node.visible then desk.tree.detachCommands node.id else [])).hasViews =
        desk.scene.hasViews :=
    funext detached.hosts
  unfold move Tree.move Tree.moved
  simp only [bind_assoc, on_tree_bind, on_alter_bind, on_perform_bind, on_ensureViews_bind,
    on_hosted_bind, List.nil_append, views, isHosted, if_true, Desk.settle_overflow]
  refine Desk.after_bind_congr fun above computed => ?_
  -- Setting up views above the window takes none away from it.
  have built := (detached.retree (rehomed.filter_children (by simp))).ensureViews
    (forest.ofRehomed rehomed) ((rehomed.isLive_of_ne admits.different).trans admits.live) computed
  have stillHosted : (desk.scene.performAll
      ((if node.visible then desk.tree.detachCommands node.id else []) ++ above)).hasViews
        node.id = true := by
    rw [Scene.performAll_append, built.hosts, isHosted, Bool.or_true]
  simp only [stillHosted, if_true, bind_assoc, on_compute_bind, on_perform_bind, on_tree_bind,
    ends]
  refine Desk.after_bind_congr fun whole _ => ?_
  simp only [List.append_assoc, List.singleton_append]
  rfl

end Moving

theorem on_reparent {desk : Desk} (shows : Shows desk.tree desk.scene)
    (forest : desk.tree.Forest) (id parent : WindowId) (scale : Binary32) :
    (reparent id parent scale).on desk { tree := desk.tree } =
      desk.settle (desk.tree.reparent desk.scene.hasViews id parent scale) := by
  unfold reparent Tree.reparent
  rw [on_tree_bind]
  dsimp only
  cases refusal : desk.tree.moveRefusal id parent with
  | some error => rfl
  | none =>
      obtain ⟨node, found, notDesktop, place⟩ := Tree.moveRefusal_eq_none refusal
      have own : node.id = id := forest.stored id node found
      subst own
      have ends : ∀ moved : Change, (alter (·.rescale node.id scale)).on desk moved =
          .ok (.ok (), desk.carryOut { moved with tree := moved.tree.rescale node.id scale }) :=
        fun moved => on_alter desk moved _
      simp only [found]
      by_cases isAbsent : parent = WindowId.absent
      · simp only [if_pos isAbsent]
        cases hasParent : node.parent.isSome with
        | true => exact on_promote_bind forest found ends
        | false => exact ends _
      · have admits := place.resolve_left isAbsent
        simp only [if_neg isAbsent]
        cases isTopLevel : node.isTopLevel with
        | true => exact on_demote_bind found parent ends
        | false =>
            by_cases stays : node.parent = some parent
            · simp only [stays, if_true]
              exact ends _
            · simp only [stays, if_false]
              have isChild := Tree.isChild_of_neither notDesktop isTopLevel
              exact on_move_bind shows forest found isChild admits ends

/-! ### Placements -/

/-- The window is stacked if that is not refused. The commands before that write no line of the
log. -/
theorem on_stack_bind (desk : Desk) {change : Change}
    {restack : Tree → Except WindowError (Tree × List Notice)} {stacked : Tree}
    {notices : List Notice} (stacking : restack change.tree = .ok (stacked, notices))
    (silent : desk.scene.reportAll change.commands = []) :
    (stack restack >>= later).on desk change =
      (later ()).on desk { change with tree := stacked, notices := change.notices ++ notices } := by
  have same : desk.carryOut { change with tree := stacked, notices := change.notices ++ notices } =
      ({ tree := stacked, scene := desk.scene.performAll change.commands },
        { calls := change.calls
          notices := (desk.carryOut change).2.notices ++ notices }) := by
    simp [Desk.carryOut, silent]
  unfold stack
  simp only [bind_assoc, on_tree_bind, stacking, on_alter_bind]
  unfold on
  rw [same]
  rfl

theorem silent_placing (scene : Scene) (id : WindowId) (whole footprint : Rect)
    (before after : Bool) :
    scene.reportAll ([.layout id .whole whole] ++ Tree.focusCommands id before after ++
      [.layout id .client footprint]) = [] := by
  unfold Tree.focusCommands
  split <;> rfl

section Placing

variable {desk : Desk} {id : WindowId} {node : Node} {placement : Placement}

theorem on_positionTopLevel (found : desk.tree.node? node.id = some node)
    (notSelf : placement.reorders = true → placement.directive ≠ .after node.id) :
    (positionTopLevel node.id placement).on desk { tree := desk.tree } =
      desk.settle (desk.tree.positionTopLevel node placement) := by
  unfold positionTopLevel Tree.positionTopLevel
  simp only [on_tree_bind, found, on_alter_bind, on_compute_bind, on_perform_bind,
    Desk.settle_overflow]
  refine Desk.after_bind_congr fun client _ => ?_
  refine Desk.after_bind_congr fun whole _ => ?_
  refine Desk.after_bind_congr fun footprint _ => ?_
  have live : (desk.tree.store node.id placement).isLive node.id = true :=
    Tree.isLive_iff.mpr ⟨_, Tree.node?_store_self found⟩
  cases reorders : placement.reorders with
  | true =>
      obtain ⟨⟨stacked, notices⟩, stacking⟩ := Tree.succeeds_restack live (notSelf reorders)
      simp only [if_true]
      rw [on_stack_bind _ desk stacking (silent_placing ..)]
      simp only [stacking, Bool.true_or, if_true, on_tree_bind, on_perform_bind, on_refreshTitle]
      rfl
  | false =>
      simp only [Bool.false_eq_true, if_false, Bool.false_or]
      by_cases resync : (node.visible != (node.placed placement).visible ||
          node.minimized != (node.placed placement).minimized) = true
      · simp only [if_pos resync, on_tree_bind, on_perform_bind, on_refreshTitle]
        rfl
      · simp only [if_neg resync, on_refreshTitle, List.append_nil]
        rfl

theorem on_layOutChild (desk : Desk) (node : Node) (placement : Placement) (client : Rect)
    (stacked : Tree) (notices : List Notice) :
    (layOutChild node placement client).on desk { tree := stacked, notices } =
      desk.settle (do
        if desk.scene.hasViews node.id then
          let inParent ←
            match node.parent with
            | none => pure []
            | some parent =>
              let whole ← Layout.padded (node.placed placement).visibleRect
              pure (.layout node.id .whole whole ::
                stacked.childViewCommands parent node.id node.visible
                  (node.placed placement).visible placement.reorders)
          let footprint ← Layout.padded client
          pure
            { tree := stacked
              commands := inParent ++ [.layout node.id .client footprint]
              notices }
        else pure { tree := stacked, notices }) := by
  unfold layOutChild
  rw [on_hosted_bind]
  cases isHosted : desk.scene.hasViews node.id with
  | false =>
      simp only [Scene.performAll_nil, isHosted, Bool.false_eq_true, if_false]
      rfl
  | true =>
      simp only [Scene.performAll_nil, isHosted, if_true]
      cases node.parent with
      | none =>
          simp only [on_compute_bind, on_perform, pure_bind, Desk.settle_overflow]
          exact Desk.after_bind_congr fun footprint _ => rfl
      | some parent =>
          simp only [on_compute_bind, on_perform_bind, on_tree_bind, on_perform,
            Desk.settle_overflow]
          refine Desk.after_bind_congr fun whole _ => ?_
          simp only [pure_bind, Desk.settle_overflow]
          exact Desk.after_bind_congr fun footprint _ => rfl

theorem on_positionChild (found : desk.tree.node? node.id = some node)
    (notSelf : placement.reorders = true → placement.directive ≠ .after node.id) :
    (positionChild node.id placement).on desk { tree := desk.tree } =
      desk.settle (desk.tree.positionChild desk.scene.hasViews node placement) := by
  unfold positionChild Tree.positionChild
  simp only [on_tree_bind, found, on_alter_bind, on_compute_bind, Desk.settle_overflow]
  refine Desk.after_bind_congr fun client _ => ?_
  have live : (desk.tree.store node.id placement).isLive node.id = true :=
    Tree.isLive_iff.mpr ⟨_, Tree.node?_store_self found⟩
  by_cases reorders : (placement.reorders && node.parent.isSome) = true
  · obtain ⟨⟨stacked, notices⟩, stacking⟩ :=
      Tree.succeeds_restackChild live (notSelf (Bool.and_eq_true_iff.mp reorders).1)
    simp only [if_pos reorders]
    rw [on_stack_bind _ desk stacking rfl]
    simp only [stacking]
    exact on_layOutChild desk node placement client stacked notices
  · simp only [if_neg reorders]
    exact on_layOutChild desk node placement client _ []

end Placing

theorem on_position {desk : Desk} (forest : desk.tree.Forest) (id : WindowId)
    (placement : Placement) :
    (position id placement).on desk { tree := desk.tree } =
      desk.settle (desk.tree.position desk.scene.hasViews id placement) := by
  unfold position Tree.position
  rw [on_tree_bind]
  dsimp only
  cases found : desk.tree.node? id with
  | none => rfl
  | some node =>
      have own : node.id = id := forest.stored id node found
      subst own
      by_cases self : (placement.reorders && decide (placement.directive = .after node.id)) = true
      · simp only [if_pos self]
        rfl
      · simp only [if_neg self]
        have notSelf : placement.reorders = true → placement.directive ≠ .after node.id := by
          simpa using self
        cases node.kind with
        | desktop => rfl
        | topLevel flag => exact on_positionTopLevel found notSelf
        | child => exact on_positionChild found notSelf

/-! ### Attributes -/

theorem on_onLive (desk : Desk) (id : WindowId) {work : Node → Work Unit}
    {changed : Node → Except Failure Change}
    (agree : ∀ node, (work node).on desk { tree := desk.tree } = desk.settle (changed node)) :
    (onLive id work).on desk { tree := desk.tree } = desk.settle (desk.tree.onLive id changed) := by
  unfold onLive Tree.onLive
  rw [on_tree_bind]
  dsimp only
  cases desk.tree.node? id with
  | none => rfl
  | some node => exact agree node

theorem on_focus (desk : Desk) (id : WindowId) :
    (focus id).on desk { tree := desk.tree } = desk.settle (desk.tree.focus id) := by
  refine on_onLive desk id fun node => ?_
  split
  · simp only [on_perform_bind, on_refreshTitle]
    rfl
  · rfl

theorem on_relabel (desk : Desk) (id : WindowId) (edit : Node → Node) :
    (relabel id edit).on desk { tree := desk.tree } =
      desk.settle (desk.tree.onLive id fun node => .ok (Tree.announcingIf node.isTopLevel
        { tree := desk.tree.updateNode id edit })) := by
  refine on_onLive desk id fun node => ?_
  unfold Tree.announcingIf
  rw [on_alter_bind]
  split
  · exact on_refreshTitle ..
  · rfl

theorem on_surfaceAvailable (desk : Desk) (id : WindowId) (kind : Surface.Kind)
    (handle : Surface.Handle) :
    (surfaceAvailable id kind handle).on desk { tree := desk.tree } =
      desk.settle (desk.tree.surfaceAvailable id kind handle) := by
  refine on_onLive desk id fun node => ?_
  simp only [on_compute_bind, on_perform_bind, on_alter_bind, on_send, Desk.settle_overflow]
  refine Desk.after_bind_congr fun parking _ => ?_
  exact Desk.after_bind_congr fun restoring _ => rfl

theorem on_surfaceDestroyed (desk : Desk) (id : WindowId) (kind : Surface.Kind) :
    (surfaceDestroyed id kind).on desk { tree := desk.tree } =
      desk.settle (desk.tree.surfaceDestroyed id kind) :=
  on_onLive desk id fun _ => rfl

theorem on_viewVisibility (desk : Desk) (id : WindowId) (kind : Surface.Kind) (visible : Bool) :
    (viewVisibility id kind visible).on desk { tree := desk.tree } =
      desk.settle (desk.tree.viewVisibility id kind visible) := by
  refine on_onLive desk id fun node => ?_
  cases node.surfaces.get kind <;> rfl

theorem on_activityStarted (desk : Desk) :
    activityStarted.on desk { tree := desk.tree } = desk.settle (.ok desk.tree.activityStarted) := by
  unfold activityStarted
  simp only [on_tree_bind, on_send_bind, on_perform]
  rfl

theorem on_activityStopped (desk : Desk) :
    activityStopped.on desk { tree := desk.tree } =
      desk.settle (.ok desk.tree.activityStopped) := by
  unfold activityStopped
  simp only [on_tree_bind, on_perform]
  rfl

end Events

end Work

namespace Desk

/-- How the work on an event ends, done step by step. -/
def attempt (desk : Desk) (event : TreeEvent) :
    Except Interruption (Except WindowError Unit × Desk × Output) :=
  (Work.onEvent event).run.run (desk, {})

/-- Step by step an event does what its change says. In particular a refusal that comes after the
first step never happens. -/
theorem attempt_eq_settle {desk : Desk} (forest : desk.tree.Forest)
    (shows : Shows desk.tree desk.scene) (event : TreeEvent) :
    desk.attempt event = desk.settle (desk.tree.change desk.scene.hasViews event) := by
  show (Work.onEvent event).on desk { tree := desk.tree } = _
  cases event with
  | createDesktop id => exact Work.on_createDesktop desk id
  | create id parent scale accelerated process =>
      exact Work.on_create desk id parent scale accelerated process
  | startAccelerated id => exact Work.on_startAccelerated desk id
  | destroy id => exact Work.on_destroy desk id
  | reparent id parent scale => exact Work.on_reparent shows forest id parent scale
  | position id placement => exact Work.on_position forest id placement
  | focus id => exact Work.on_focus desk id
  | setText id text => exact Work.on_relabel desk id _
  | setIcon id icon => exact Work.on_relabel desk id _
  | surfaceAvailable id kind handle => exact Work.on_surfaceAvailable desk id kind handle
  | surfaceDestroyed id kind => exact Work.on_surfaceDestroyed desk id kind
  | viewVisibility id kind visible => exact Work.on_viewVisibility desk id kind visible
  | activityStarted => exact Work.on_activityStarted desk
  | activityStopped => exact Work.on_activityStopped desk

end Desk

end WindowRelay
