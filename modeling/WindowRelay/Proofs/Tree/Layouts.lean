import WindowRelay.Proofs.Desk.Views
import WindowRelay.Proofs.Geometry.Layout
import WindowRelay.Proofs.Tree.Records

/-!
Contract: windows that can be laid out, and events that are not interrupted.

Owns:
- windows whose rectangles are placeable, and trees of such windows;
- every event keeps a tree such, a placement as long as its own rectangles are placeable;
- the views of all windows of such a tree can be set up;
- no event on such a tree is interrupted, a placement as long as its own rectangles are placeable.
-/

namespace WindowRelay

/-- The rectangles of a window can be laid out wherever it stands. -/
def Node.Layable (node : Node) : Prop :=
  Layout.Placeable node.clientRect node.visibleRect node.style.isVisible

namespace Node

variable {node other : Node}

/-- Only rectangles and style matter. -/
theorem Layable.congr (layable : node.Layable) (client : other.clientRect = node.clientRect)
    (visible : other.visibleRect = node.visibleRect) (style : other.style = node.style) :
    other.Layable := by
  unfold Layable
  rw [client, visible, style]
  exact layable

theorem layable_newNode (id : WindowId) (kind : Kind) (scale : Binary32) (process : UInt32)
    (parent : Option WindowId) : (Tree.newNode id kind scale process parent).Layable :=
  Layout.placeable_zero _

theorem Layable.whole (layable : node.Layable) : Succeeds (Layout.padded node.visibleRect) :=
  (Layout.placeable_iff.mp layable).2.1

theorem Layable.parked (layable : node.Layable) (hidden : node.visible = false) (keepPixel : Bool) :
    Succeeds (Layout.offscreen node.visibleRect keepPixel) := by
  have notShown : node.style.isVisible = false := by
    rw [visible, Bool.or_eq_false_iff] at hidden
    exact hidden.2
  exact Layout.succeeds_offscreen_of_keepPixel ((Layout.placeable_iff.mp layable).2.2 notShown) _

/-- The layout of a client container, and the footprint behind it. -/
theorem Layable.clientArea (layable : node.Layable) :
    ∃ area, node.clientLayout = .ok area ∧ Succeeds (Layout.padded area) :=
  succeeds_bind.mp (Layout.placeable_iff.mp layable).1

theorem Layable.wholePlace (layable : node.Layable) : Succeeds node.wholePlace := by
  unfold Node.wholePlace
  split
  · exact succeeds_ok _
  · next hidden => exact layable.parked (by simpa using hidden) _

end Node

namespace Tree

variable {tree : Tree} {id parent : WindowId} {node : Node} {hasViews : WindowId → Bool}
  {event : TreeEvent} {change : Change}

/-! ## Trees of such windows -/

/-- The layouts of all windows succeed. -/
def Layable (tree : Tree) : Prop :=
  ∀ id node, tree.node? id = some node → node.Layable

theorem layable_iff_record? :
    tree.Layable ↔ ∀ id record, tree.record? id = some record → record.Layable := by
  constructor
  · intro layable id record found
    obtain ⟨node, nodeFound, rfl⟩ := Option.map_eq_some_iff.mp found
    exact (layable id node nodeFound).congr rfl rfl rfl
  · intro layable id node found
    exact (layable id node.record (record?_of_node? found)).congr rfl rfl rfl

theorem Layable.ofRecords {before after : Tree} (layable : before.Layable)
    (records : ∀ id, after.record? id = before.record? id) : after.Layable := by
  rw [layable_iff_record?] at layable ⊢
  intro id record found
  exact layable id record (records id ▸ found)

end Tree

/-- The rectangles of a placement can be laid out; other events bring no rectangles. -/
def TreeEvent.LaysOut : TreeEvent → Prop
  | .position _ placement =>
    Layout.Placeable placement.clientRect placement.visibleRect placement.style.isVisible
  | _ => True

instance : (event : TreeEvent) → Decidable event.LaysOut
  | .position _ placement =>
    inferInstanceAs (Decidable (Layout.Placeable placement.clientRect placement.visibleRect
      placement.style.isVisible))
  | .createDesktop _ | .create .. | .startAccelerated _ | .destroy _ | .reparent .. | .focus _
  | .setText .. | .setIcon .. | .surfaceAvailable .. | .surfaceDestroyed .. | .viewVisibility ..
  | .activityStarted | .activityStopped => isTrue trivial

namespace Tree

variable {tree : Tree} {id parent : WindowId} {node : Node} {hasViews : WindowId → Bool}
  {event : TreeEvent} {change : Change}

theorem Edits.layable {record after : Node} (edits : Edits id record event after)
    (layable : record.Layable) (laysOut : event.LaysOut) : after.Layable := by
  cases edits with
  | placed placement => exact laysOut
  | restacked placement flag =>
      have placed : (record.placed placement).Layable := laysOut
      unfold Node.setTopmost
      split
      · exact placed.congr rfl rfl rfl
      · exact placed
  | _ => exact layable.congr rfl rfl rfl

/-- An accepted event keeps all windows such that they can be laid out. -/
theorem Layable.ofChange (layable : tree.Layable) (forest : tree.Forest)
    (accepted : tree.change hasViews event = .ok change) (laysOut : event.LaysOut) :
    change.tree.Layable := by
  rw [layable_iff_record?] at layable ⊢
  intro id record found
  have fate := fate_of_change forest accepted id
  rw [found] at fate
  generalize afterIs : some record = after at fate
  cases fate with
  | kept => exact layable id record afterIs.symm
  | came =>
      cases afterIs
      exact Node.layable_newNode ..
  | edited before edits =>
      cases afterIs
      exact edits.layable (layable id _ before) laysOut
  | went => cases afterIs

theorem layable_empty : ({} : Tree).Layable := by
  intro id node found
  cases found

/-! ## Views -/

theorem succeeds_topLevelViews (layable : node.Layable) : Succeeds (topLevelViews node) := by
  obtain ⟨whole, isWhole⟩ := layable.wholePlace
  obtain ⟨area, isArea, footprint, isFootprint⟩ := layable.clientArea
  exact ⟨_, bind_eq_ok.mpr ⟨whole, isWhole, bind_eq_ok.mpr ⟨area, isArea,
    bind_eq_ok.mpr ⟨footprint, isFootprint, rfl⟩⟩⟩⟩

theorem succeeds_childViews (layable : node.Layable) : Succeeds (tree.childViews node) := by
  obtain ⟨whole, isWhole⟩ := layable.whole
  obtain ⟨area, isArea, footprint, isFootprint⟩ := layable.clientArea
  unfold childViews
  refine succeeds_bind.mpr ⟨area, isArea, succeeds_bind.mpr ⟨footprint, isFootprint, ?_⟩⟩
  split
  · exact succeeds_ok _
  · exact succeeds_bind.mpr ⟨whole, isWhole, succeeds_ok _⟩

theorem Layable.succeeds_viewsOfAll (layable : tree.Layable) (windows : List WindowId) :
    Succeeds (tree.viewsOfAll windows) := by
  induction windows with
  | nil => exact succeeds_ok _
  | cons window rest inductionHypothesis =>
      obtain ⟨later, laterViews⟩ := inductionHypothesis
      have own : Succeeds (tree.viewsOf window) := by
        unfold viewsOf
        split
        · next node found => exact succeeds_childViews (layable window node found)
        · exact succeeds_ok _
      obtain ⟨here, ownViews⟩ := own
      exact ⟨here ++ later, viewsOfAll_cons.mpr ⟨here, later, ownViews, laterViews, rfl⟩⟩

theorem Layable.succeeds_ensureViews (layable : tree.Layable) (hasViews : WindowId → Bool)
    (id : WindowId) : Succeeds (tree.ensureViews hasViews id) :=
  layable.succeeds_viewsOfAll _

/-! ## Events that are not interrupted -/

theorem calm_createDesktop (tree : Tree) (id : WindowId) : Calm (tree.createDesktop id) := by
  unfold createDesktop
  repeat' split
  · exact calm_refused _
  · exact calm_refused _
  · exact calm_ok _

theorem calm_createTopLevel (tree : Tree) (id : WindowId) (scale : Binary32) (process : UInt32) :
    Calm (tree.createTopLevel id scale process) :=
  calm_bind (calm_liftOverflow (succeeds_topLevelViews (Node.layable_newNode ..)))
    fun _ _ => calm_ok _

theorem calm_createChild (layable : tree.Layable) (id : WindowId) (parent : Option WindowId)
    (scale : Binary32) (process : UInt32) :
    Calm (tree.createChild hasViews id parent scale process) := by
  have created : ((tree.awaiting parent id).addNode
      (newNode id .child scale process parent)).Layable := by
    rw [layable_iff_record?] at layable ⊢
    intro other record found
    rw [record?_addNode, record?_awaiting] at found
    split at found
    · cases found
      exact (Node.layable_newNode id .child scale process parent).congr rfl rfl rfl
    · exact layable other record found
  have views := created.succeeds_ensureViews hasViews id
  unfold createChild
  cases parent with
  | none =>
      refine calm_bind (calm_ok tree) fun linked isLinked => ?_
      cases isLinked
      exact calm_bind (calm_liftOverflow views) fun _ _ => calm_ok _
  | some target =>
      dsimp only
      split
      · refine calm_bind (calm_ok (tree.appendChild target id)) fun linked isLinked => ?_
        cases isLinked
        exact calm_bind (calm_liftOverflow views) fun _ _ => calm_ok _
      · exact calm_refused _

theorem calm_create (layable : tree.Layable) (id parent : WindowId) (scale : Binary32)
    (accelerated : Bool) (process : UInt32) :
    Calm (tree.create hasViews id parent scale accelerated process) := by
  have topLevel : ∀ next : Change → Change,
      Calm (do let created ← tree.createTopLevel id scale process; pure (next created)) :=
    fun _ => calm_bind (calm_createTopLevel tree id scale process) fun _ _ => calm_ok _
  have child : ∀ (target : Option WindowId) (next : Change → Change),
      Calm (do
        let created ← tree.createChild hasViews id target scale process
        pure (next created)) :=
    fun target _ => calm_bind (calm_createChild layable id target scale process)
      fun _ _ => calm_ok _
  unfold create
  split
  · exact calm_refused _
  · split
    · split
      · exact calm_ok _
      · exact calm_refused _
    · -- With and without accelerated rendering, and for a child under a parent or under none.
      repeat' split
      all_goals first | exact topLevel _ | exact child _ _

theorem Layable.demoted (layable : tree.Layable) (id parent : WindowId) :
    (tree.demoted id parent).Layable := by
  rw [layable_iff_record?] at layable ⊢
  intro other record found
  rw [record?_demoted] at found
  split at found
  · obtain ⟨before, beforeFound, rfl⟩ := Option.map_eq_some_iff.mp found
    exact (layable other before beforeFound).congr rfl rfl rfl
  · exact layable other record found

theorem Layable.moved (layable : tree.Layable) (id parent : WindowId) :
    (tree.moved id parent).Layable :=
  layable.ofRecords fun other => record?_moved tree id parent other

theorem calm_promote (layable : node.Layable) : Calm (tree.promote node) := by
  have rebuilt :
      Node.Layable { node with kind := .topLevel false, parent := none, surfaces := {} } :=
    layable.congr rfl rfl rfl
  exact calm_bind (calm_liftInterruption (succeeds_after (succeeds_topLevelViews rebuilt)))
    fun _ _ => calm_ok _

theorem calm_demote (layable : tree.Layable) (node : Node) (parent : WindowId) :
    Calm (tree.demote hasViews node parent) := by
  have views := (layable.demoted node.id parent).succeeds_ensureViews
    (fun window => window != node.id && hasViews window) node.id
  exact calm_bind (calm_liftInterruption (succeeds_after views)) fun _ _ => calm_ok _

theorem calm_move (layable : tree.Layable) (nodeLayable : node.Layable) (parent : WindowId) :
    Calm (tree.move hasViews node parent) := by
  have views := (layable.moved node.id parent).succeeds_ensureViews
  unfold move
  refine calm_bind (calm_liftOverflow (views hasViews parent)) fun _ _ => ?_
  dsimp only
  split
  · exact calm_bind (calm_liftOverflow nodeLayable.whole) fun _ _ => calm_ok _
  · exact calm_bind (calm_liftOverflow (views _ node.id)) fun _ _ => calm_ok _

theorem calm_reparent (layable : tree.Layable) (id parent : WindowId) (scale : Binary32) :
    Calm (tree.reparent hasViews id parent scale) := by
  unfold reparent
  cases refusal : tree.moveRefusal id parent with
  | some error => exact calm_refused _
  | none =>
      obtain ⟨node, found, -, -⟩ := moveRefusal_eq_none refusal
      have nodeLayable := layable id node found
      simp only [found]
      repeat' split
      · exact calm_bind (calm_promote nodeLayable) fun _ _ => calm_ok _
      · exact calm_ok _
      · exact calm_bind (calm_demote layable node parent) fun _ _ => calm_ok _
      · exact calm_ok _
      · exact calm_bind (calm_move layable nodeLayable parent) fun _ _ => calm_ok _

/-! ## Placements -/

variable {placement : Placement}

theorem calm_positionTopLevel (laysOut : (TreeEvent.position id placement).LaysOut) :
    Calm (tree.positionTopLevel node placement) := by
  have placed : (node.placed placement).Layable := laysOut
  obtain ⟨whole, isWhole⟩ := placed.wholePlace
  obtain ⟨area, isArea, footprint, isFootprint⟩ := placed.clientArea
  unfold positionTopLevel
  refine calm_bind (calm_liftOverflow ⟨area, isArea⟩) fun client isClient => ?_
  cases isArea.symm.trans (liftOverflow_eq_ok.mp isClient)
  refine calm_bind (calm_liftOverflow ⟨whole, isWhole⟩) fun _ _ => ?_
  refine calm_bind (calm_liftOverflow ⟨footprint, isFootprint⟩) fun _ _ => ?_
  dsimp only
  split
  · exact calm_bind (calm_liftRefusal _) fun _ _ => calm_ok _
  · exact calm_ok _

theorem calm_positionChild (laysOut : (TreeEvent.position id placement).LaysOut) :
    Calm (tree.positionChild hasViews node placement) := by
  have placed : (node.placed placement).Layable := laysOut
  obtain ⟨whole, isWhole⟩ := placed.whole
  obtain ⟨area, isArea, footprint, isFootprint⟩ := placed.clientArea
  unfold positionChild
  refine calm_bind (calm_liftOverflow ⟨area, isArea⟩) fun client isClient => ?_
  cases isArea.symm.trans (liftOverflow_eq_ok.mp isClient)
  have footprints : ∀ next : Rect → Change,
      Calm (do let footprint ← Layout.padded area; pure (next footprint)) :=
    fun _ => calm_bind (calm_liftOverflow ⟨footprint, isFootprint⟩) fun _ _ => calm_ok _
  have layouts : ∀ next : Rect → Rect → Change,
      Calm (do
        let whole ← Layout.padded (node.placed placement).visibleRect
        let footprint ← Layout.padded area
        pure (next whole footprint)) :=
    fun next => calm_bind (calm_liftOverflow ⟨whole, isWhole⟩) fun _ _ => footprints _
  dsimp only
  split
  · refine calm_bind (calm_liftRefusal _) fun stacked _ => ?_
    repeat' split
    · exact footprints _
    · exact layouts _
    · exact calm_ok _
  · repeat' split
    · exact footprints _
    · exact layouts _
    · exact calm_ok _

theorem calm_position (laysOut : (TreeEvent.position id placement).LaysOut) :
    Calm (tree.position hasViews id placement) := by
  unfold position
  repeat' split
  · exact calm_refused _
  · exact calm_refused _
  · exact calm_ok _
  · exact calm_positionTopLevel laysOut
  · exact calm_positionChild laysOut

/-! ## Attributes -/

theorem calm_onLive {change : Node → Except Failure Change}
    (calm : ∀ node, tree.node? id = some node → Calm (change node)) :
    Calm (tree.onLive id change) := by
  unfold onLive
  split
  · exact calm_refused _
  · next node found => exact calm node found

theorem succeeds_parkingCommands (layable : node.Layable) (kind : Surface.Kind) :
    Succeeds (parkingCommands node kind) := by
  unfold parkingCommands
  split
  · next hidden =>
      simp only [Bool.and_eq_true, Bool.not_eq_true'] at hidden
      obtain ⟨place, isPlace⟩ := layable.parked hidden.1.2 false
      exact succeeds_bind.mpr ⟨place, isPlace, succeeds_ok _⟩
  · exact succeeds_ok _

theorem succeeds_restoringCommands (layable : node.Layable) (kind : Surface.Kind)
    (outcome : Surface.Outcome) : Succeeds (restoringCommands node kind outcome) := by
  obtain ⟨area, isArea, footprint, isFootprint⟩ := layable.clientArea
  unfold restoringCommands
  split
  · exact succeeds_bind.mpr ⟨area, isArea,
      succeeds_bind.mpr ⟨footprint, isFootprint, succeeds_ok _⟩⟩
  · exact succeeds_ok _

theorem calm_surfaceAvailable (layable : tree.Layable) (id : WindowId) (kind : Surface.Kind)
    (handle : Surface.Handle) : Calm (tree.surfaceAvailable id kind handle) := by
  refine calm_onLive fun node found => ?_
  refine calm_bind (calm_liftOverflow (succeeds_parkingCommands (layable id node found) kind))
    fun _ _ => ?_
  exact calm_bind (calm_liftOverflow (succeeds_restoringCommands (layable id node found) kind _))
    fun _ _ => calm_ok _

/-- No event interrupts a session whose windows can be laid out, a placement as long as its own
rectangles can. -/
theorem Layable.calm (layable : tree.Layable) (hasViews : WindowId → Bool)
    (laysOut : event.LaysOut) : Calm (tree.change hasViews event) := by
  cases event with
  | createDesktop id => exact calm_createDesktop tree id
  | create id parent scale accelerated process =>
      exact calm_create layable id parent scale accelerated process
  | startAccelerated id =>
      show Calm (tree.startAccelerated id)
      unfold startAccelerated
      split
      · exact calm_ok _
      · exact calm_refused _
  | reparent id parent scale => exact calm_reparent layable id parent scale
  | position id placement => exact calm_position laysOut
  | focus id =>
      refine calm_onLive fun node _ => ?_
      split <;> exact calm_ok _
  | surfaceAvailable id kind handle => exact calm_surfaceAvailable layable id kind handle
  | destroy | activityStarted | activityStopped => exact calm_ok _
  | setText | setIcon | surfaceDestroyed | viewVisibility => exact calm_onLive fun _ _ => calm_ok _

/-! ## Windows that cannot be laid out -/

/-- A placement of a top-level window without a directive is not refused. -/
theorem granted_position {placement : Placement} (found : tree.node? id = some node)
    (isTopLevel : node.isTopLevel = true) (keepsOrder : placement.reorders = false) :
    Granted (tree.position hasViews id placement) := by
  have topLevel : tree.position hasViews id placement = tree.positionTopLevel node placement := by
    unfold position
    cases kindIs : node.kind <;> simp_all [Node.isTopLevel]
  rw [topLevel]
  unfold positionTopLevel
  simp only [keepsOrder, Bool.false_eq_true, if_false]
  exact granted_bind (granted_liftOverflow _) fun _ => granted_bind (granted_liftOverflow _)
    fun _ => granted_bind (granted_liftOverflow _) fun _ => granted_ok _

/-- A move of a top-level window under an admitted parent is not refused. -/
theorem granted_reparent_under (found : tree.node? id = some node)
    (isTopLevel : node.isTopLevel = true) (notAbsent : parent ≠ WindowId.absent)
    (admits : tree.Admits id parent) (scale : Binary32) :
    Granted (tree.reparent hasViews id parent scale) := by
  rw [reparent_under found isTopLevel notAbsent admits]
  exact granted_bind (granted_bind (granted_liftInterruption _) fun _ => granted_ok _)
    fun _ => granted_ok _

/-- A move of a child to the top level is not refused. -/
theorem granted_reparent_back (found : tree.node? id = some node) (isChild : node.kind = .child)
    (hasParent : node.parent.isSome = true) (scale : Binary32) :
    Granted (tree.reparent hasViews id WindowId.absent scale) := by
  rw [reparent_back found isChild hasParent]
  exact granted_bind (granted_bind (granted_liftInterruption _) fun _ => granted_ok _)
    fun _ => granted_ok _

/-- A placement without a directive stores rectangles, style and owner, and nothing else. -/
theorem position_stores {placement : Placement} (forest : tree.Forest)
    (found : tree.node? id = some node) (isTopLevel : node.isTopLevel = true)
    (keepsOrder : placement.reorders = false)
    (positioned : tree.position hasViews id placement = .ok change) :
    change.tree.nodes = (tree.store id placement).nodes := by
  obtain ⟨positionedNode, foundAgain, kinds⟩ := position_eq_ok positioned
  cases found.symm.trans foundAgain
  rcases kinds with ⟨kindIs, -⟩ | ⟨-, topLevel⟩ | ⟨kindIs, -⟩
  · simp [Node.isTopLevel, kindIs] at isTopLevel
  · obtain ⟨stacked, whole, footprint, notices, ⟨reorders, -⟩ | ⟨-, rfl⟩, -, -, rfl⟩ :=
      positionTopLevel_eq_ok topLevel
    · rw [keepsOrder] at reorders
      cases reorders
    · rw [forest.stored id node found]
      rfl
  · simp [Node.isTopLevel, kindIs] at isTopLevel

/-- Under a parent the whole container of a window gets a footprint. -/
theorem succeeds_padded_of_demote (forest : tree.Forest) (found : tree.node? id = some node)
    (isTopLevel : node.isTopLevel = true) (admits : tree.Admits id parent)
    (demoted : tree.demote hasViews node parent = .ok change) :
    Succeeds (Layout.padded node.visibleRect) := by
  have own : node.id = id := forest.stored id node found
  have rehomed := rehomed_demoted forest found isTopLevel admits
  have link : (tree.demoted id parent).parent? id = some parent := by
    rw [rehomed.parents, if_pos rfl]
  obtain ⟨views, computed, -⟩ := demote_eq_ok demoted
  rw [own] at computed
  unfold ensureViews at computed
  rw [missingViews_of_parent (forest.ofRehomed rehomed) (by simp) link] at computed
  obtain ⟨-, commands, -, ownViews, -⟩ := viewsOfAll_append computed
  have record : (tree.demoted id parent).record? id = some (node.record.rebuilt .child) := by
    rw [record?_demoted, if_pos rfl, record?_of_node? found]
    rfl
  obtain ⟨child, childFound, childRecord⟩ := Option.map_eq_some_iff.mp record
  have rects := congrArg Node.visibleRect childRecord
  have sameRect : child.visibleRect = node.visibleRect := rects
  have childParent : child.parent = some parent := (parent?_of_node? childFound).symm.trans link
  have views := viewsOfAll_singleton childFound ownViews
  unfold childViews at views
  obtain ⟨area, -, rest⟩ := bind_eq_ok.mp views
  obtain ⟨footprint, -, rest⟩ := bind_eq_ok.mp rest
  rw [childParent] at rest
  obtain ⟨whole, isWhole, -⟩ := bind_eq_ok.mp rest
  exact ⟨whole, sameRect ▸ isWhole⟩

/-- At the top level the client container gets a footprint, and a hidden window is parked. -/
theorem succeeds_of_promote (promoted : tree.promote node = .ok change) :
    Succeeds (Layout.clientArea node.clientRect node.visibleRect >>= Layout.padded) ∧
      (node.style.isVisible = false → Succeeds (Layout.offscreen node.visibleRect true)) := by
  obtain ⟨views, computed, -⟩ := promote_eq_ok promoted
  obtain ⟨whole, isWhole, rest⟩ := bind_eq_ok.mp computed
  obtain ⟨area, isArea, rest⟩ := bind_eq_ok.mp rest
  obtain ⟨footprint, isFootprint, -⟩ := bind_eq_ok.mp rest
  refine ⟨⟨footprint, bind_eq_ok.mpr ⟨area, isArea, isFootprint⟩⟩, fun hidden => ?_⟩
  unfold Node.wholePlace at isWhole
  rw [if_neg (by simp [Node.visible, hidden])] at isWhole
  exact ⟨whole, isWhole⟩

/-- After its move under a parent a window is a child with the rectangles that it had. -/
theorem node?_reparent_under (forest : tree.Forest) (found : tree.node? id = some node)
    (isTopLevel : node.isTopLevel = true) (notAbsent : parent ≠ WindowId.absent)
    (admits : tree.Admits id parent) {scale : Binary32}
    (under : tree.reparent hasViews id parent scale = .ok change) :
    ∃ child, change.tree.node? id = some child ∧ child.parent = some parent ∧
      child.record = node.record.rebuilt .child := by
  rw [reparent_under found isTopLevel notAbsent admits] at under
  obtain ⟨first, demoted, rest⟩ := bind_eq_ok.mp under
  cases rest
  obtain ⟨views, -, rfl⟩ := demote_eq_ok demoted
  rw [forest.stored id node found]
  have record : ((tree.demoted id parent).announce.rescale id scale).record? id =
      some (node.record.rebuilt .child) := by
    rw [record?_rescale]
    refine (record?_demoted tree id parent id).trans ?_
    rw [if_pos rfl, record?_of_node? found]
    rfl
  have link : ((tree.demoted id parent).announce.rescale id scale).parent? id = some parent := by
    rw [(sameLook_rescale _ id scale).parent?]
    refine ((rehomed_demoted forest found isTopLevel admits).parents id).trans ?_
    rw [if_pos rfl]
  obtain ⟨child, childFound, childRecord⟩ := Option.map_eq_some_iff.mp record
  exact ⟨child, childFound, (parent?_of_node? childFound).symm.trans link, childRecord⟩

/-- A window that moves under a parent and back is laid out in every way. -/
theorem layable_of_moves (forest : tree.Forest) (found : tree.node? id = some node)
    (isTopLevel : node.isTopLevel = true) (notAbsent : parent ≠ WindowId.absent)
    (admits : tree.Admits id parent) {scale : Binary32}
    (under : tree.reparent hasViews id parent scale = .ok change)
    {hasViewsUnder : WindowId → Bool} {last : Change}
    (back : change.tree.reparent hasViewsUnder id WindowId.absent scale = .ok last) :
    node.Layable := by
  obtain ⟨child, childFound, childParent, childRecord⟩ :=
    node?_reparent_under forest found isTopLevel notAbsent admits under
  rw [reparent_under found isTopLevel notAbsent admits] at under
  obtain ⟨first, demoted, -⟩ := bind_eq_ok.mp under
  have whole := succeeds_padded_of_demote forest found isTopLevel admits demoted
  rw [reparent_back childFound (congrArg Node.kind childRecord) (by simp [childParent])] at back
  obtain ⟨second, promoted, -⟩ := bind_eq_ok.mp back
  obtain ⟨client, parked⟩ := succeeds_of_promote promoted
  have sameClient := congrArg Node.clientRect childRecord
  have sameVisible := congrArg Node.visibleRect childRecord
  have sameStyle := congrArg Node.style childRecord
  have sameRect : child.visibleRect = node.visibleRect := sameVisible
  have childLayable : child.Layable :=
    Layout.placeable_iff.mpr ⟨client, sameRect ▸ whole, parked⟩
  exact childLayable.congr sameClient.symm sameVisible.symm sameStyle.symm

end Tree

end WindowRelay
