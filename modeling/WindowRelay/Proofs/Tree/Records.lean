import WindowRelay.Proofs.Tree.Evolution

/-!
Contract: what each event does to the record of one window.

Owns:
- the record: what a window keeps for itself, without its links, its scale and its rendering mode;
- one law for each elementary change and each restructuring event;
- the fate of a record: an event keeps it, edits it in one of eight ways, lets it come new, or
  takes it away with a subtree;
- only the removal of a window takes windows away, and exactly those at or below it.

A property of single records is preserved by every event as soon as it holds of new windows and
the eight edits preserve it.
-/

namespace WindowRelay

/-- What a window keeps for itself: links, scale and rendering mode are set aside. -/
def Node.record (node : Node) : Node :=
  { node with parent := none, children := [], scale := Binary32.one, accelerated := false }

/-- A node whose views were rebuilt for another kind of window. -/
def Node.rebuilt (node : Node) (kind : Node.Kind) : Node :=
  { node with kind, surfaces := {} }

/-- Events that bring a window, or ask for a window that is there already. -/
def TreeEvent.creates (id : WindowId) : TreeEvent → Bool
  | .createDesktop target | .create target .. => id == target
  | _ => false

namespace Tree

def record? (tree : Tree) (id : WindowId) : Option Node :=
  (tree.node? id).map Node.record

variable {tree : Tree} {id other : WindowId} {node : Node} {change : Change}
  {hasViews : WindowId → Bool}

theorem record?_of_node? (found : tree.node? id = some node) :
    tree.record? id = some node.record := by
  simp [record?, found]

theorem record?_eq_none_iff : tree.record? id = none ↔ tree.node? id = none :=
  Option.map_eq_none_iff

theorem kind?_eq_record? (tree : Tree) (id : WindowId) :
    tree.kind? id = (tree.record? id).map Node.kind := by
  simp [kind?, record?, Function.comp_def, Node.record]

theorem isLive_eq_record? (tree : Tree) (id : WindowId) :
    tree.isLive id = (tree.record? id).isSome := by
  simp [isLive_eq, record?]

/-! ## Elementary changes -/

section Elementary

variable (tree : Tree) (id other : WindowId)

theorem record?_addNode (node : Node) :
    (tree.addNode node).record? other =
      if other = node.id then some node.record else tree.record? other := by
  unfold record?
  rw [node?_addNode]
  split <;> rfl

theorem record?_dropNode :
    (tree.dropNode id).record? other = if other = id then none else tree.record? other := by
  unfold record?
  rw [node?_dropNode]
  split <;> rfl

/-- A change of a node that is an edit of its record. -/
theorem record?_updateNode {change : Node → Node} (edit : Node → Node)
    (edits : ∀ node, (change node).record = edit node.record) :
    (tree.updateNode id change).record? other =
      if other = id then (tree.record? other).map edit else tree.record? other := by
  unfold record?
  rw [node?_updateNode]
  split <;> simp [Function.comp_def, edits]

theorem record?_updateNode_of_keeps {change : Node → Node}
    (keeps : ∀ node, (change node).record = node.record) :
    (tree.updateNode id change).record? other = tree.record? other := by
  rw [record?_updateNode tree id other (fun record => record) keeps]
  simp

@[simp] theorem record?_unlink (parent : Option WindowId) :
    (tree.unlink parent id).record? other = tree.record? other := by
  cases parent with
  | none => rfl
  | some parent => exact record?_updateNode_of_keeps tree parent other fun _ => rfl

@[simp] theorem record?_appendChild (parent : WindowId) :
    (tree.appendChild parent id).record? other = tree.record? other :=
  record?_updateNode_of_keeps tree parent other fun _ => rfl

@[simp] theorem record?_awaiting (target : Option WindowId) :
    (tree.awaiting target id).record? other = tree.record? other := by
  cases target with
  | none => rfl
  | some parent => exact record?_appendChild tree id other parent

@[simp] theorem record?_rescale (scale : Binary32) :
    (tree.rescale id scale).record? other = tree.record? other := by
  unfold record?
  rw [node?_rescale, Option.map_map]
  congr 1
  funext node
  by_cases inSubtree : other ∈ tree.subtree id <;> simp [inSubtree, Node.record]

@[simp] theorem record?_restackedUnder (parent : WindowId) (directive : Directive) :
    (tree.restackedUnder parent id directive).record? other = tree.record? other :=
  record?_updateNode_of_keeps tree parent other fun _ => rfl

@[simp] theorem record?_accelerate :
    (tree.accelerate id).tree.record? other = tree.record? other :=
  record?_updateNode_of_keeps tree id other fun _ => rfl

end Elementary

/-! ## Windows that come, go and move -/

theorem record?_createDesktop (created : tree.createDesktop id = .ok change) (other : WindowId) :
    change.tree.record? other =
      if other = id then some (newNode id .desktop Binary32.one 0 none).record
      else tree.record? other := by
  obtain ⟨-, -, rfl⟩ := createDesktop_eq_ok created
  exact record?_addNode tree other { id, kind := .desktop }

/-- A new window has a record of its own; asking again for a live window changes no record. -/
theorem record?_create {parent : WindowId} {scale : Binary32} {accelerated : Bool}
    {process : UInt32}
    (created : tree.create hasViews id parent scale accelerated process = .ok change) :
    (∀ other, change.tree.record? other = tree.record? other) ∨
      (tree.node? id = none ∧ ∃ kind, ∀ other, change.tree.record? other =
        if other = id then some (newNode id kind Binary32.one process none)
        else tree.record? other) := by
  rcases create_eq_ok created with ⟨-, -, rfl⟩ | ⟨dead, first, rfl, making⟩
  · exact .inl fun other => record?_accelerate tree id other
  · have added : ∃ kind, ∀ other, first.tree.record? other =
        if other = id then some (newNode id kind Binary32.one process none)
        else tree.record? other := by
      rcases making with topLevel | ⟨target, -, child⟩
      · obtain ⟨commands, -, rfl⟩ := createTopLevel_eq_ok topLevel
        exact ⟨.topLevel false, fun other => record?_addNode tree other _⟩
      · obtain ⟨-, commands, -, rfl⟩ := createChild_eq_ok child
        refine ⟨.child, fun other => ?_⟩
        rw [record?_addNode, record?_awaiting]
        rfl
    obtain ⟨kind, records⟩ := added
    refine .inr ⟨node?_eq_none_of_not_isLive dead, kind, fun other => ?_⟩
    split
    · exact (record?_accelerate first.tree id other).trans (records other)
    · exact records other

theorem startAccelerated_eq_ok (accepted : tree.startAccelerated id = .ok change) :
    change = tree.accelerate id := by
  unfold startAccelerated at accepted
  split at accepted
  · cases accepted
    rfl
  · cases accepted

theorem record?_destroyOne (tree : Tree) (id other : WindowId) :
    (tree.destroyOne id).tree.record? other = if other = id then none else tree.record? other := by
  unfold destroyOne
  split
  · next dead =>
      split
      · next isId => exact record?_eq_none_iff.mpr (isId ▸ dead)
      · rfl
  · next node found =>
      cases node.kind with
      | topLevel flag => exact record?_dropNode tree id other
      | child =>
          exact (record?_unlink _ id other node.parent).trans (record?_dropNode tree id other)
      | desktop => exact record?_dropNode tree id other

/-- Of a list of windows that are torn down, no record is left; the others keep theirs. -/
theorem record?_destroyAll (windows : List WindowId) (change : Change) (other : WindowId) :
    (windows.foldl (fun change window => change.followedBy (·.destroyOne window))
      change).tree.record? other =
      if other ∈ windows then none else change.tree.record? other := by
  induction windows generalizing change with
  | nil => simp
  | cons window rest inductionHypothesis =>
      rw [List.foldl_cons, inductionHypothesis]
      have first := record?_destroyOne change.tree window other
      by_cases inRest : other ∈ rest
      · simp [inRest]
      · rw [if_neg inRest]
        refine first.trans ?_
        simp [inRest]

/-- The records of a root and of everything below it go; the others stay. -/
theorem record?_destroy (forest : tree.Forest) (root other : WindowId) :
    (tree.destroy root).tree.record? other =
      if other = root ∨ root ∈ tree.ancestors other then none else tree.record? other := by
  refine (record?_destroyAll (tree.subtree root) { tree } other).trans ?_
  by_cases live : tree.isLive other = true
  · simp [mem_subtree_iff forest, live]
  · have noRecord : tree.record? other = none :=
      record?_eq_none_iff.mpr (node?_eq_none_of_not_isLive live)
    simp [noRecord]

theorem record?_demoted (tree : Tree) (id parent other : WindowId) :
    (tree.demoted id parent).record? other =
      if other = id then (tree.record? other).map (·.rebuilt .child) else tree.record? other := by
  unfold demoted
  rw [record?_appendChild]
  exact record?_updateNode (tree.unlistTopLevel id) id other (·.rebuilt .child) fun _ => rfl

theorem record?_promoted (tree : Tree) (id other : WindowId) :
    (tree.promoted id).record? other =
      if other = id then (tree.record? other).map (·.rebuilt (.topLevel false))
      else tree.record? other := by
  refine (record?_updateNode (tree.unlink (tree.parent? id) id) id other
    (·.rebuilt (.topLevel false)) fun _ => rfl).trans ?_
  rw [record?_unlink]

theorem record?_moved (tree : Tree) (id parent other : WindowId) :
    (tree.moved id parent).record? other = tree.record? other := by
  unfold moved
  rw [record?_appendChild, record?_updateNode_of_keeps, record?_unlink]
  exact fun _ => rfl

/-! ## Placements -/

theorem record?_store (tree : Tree) (id other : WindowId) (placement : Placement) :
    (tree.store id placement).record? other =
      if other = id then (tree.record? other).map (·.placed placement) else tree.record? other :=
  record?_updateNode tree id other (·.placed placement) fun _ => rfl

theorem Node.record_setTopmost (node : Node) (flag : Bool) :
    (node.setTopmost flag).record = node.record.setTopmost flag := by
  obtain ⟨id, kind⟩ := node
  cases kind <;> rfl

theorem record?_place (tree : Tree) (id other : WindowId) (directive : Directive) :
    (tree.place id directive).record? other =
      if other = id then
        (tree.record? other).map fun record =>
          record.setTopmost (directive.flagAfter record.topmost)
      else tree.record? other := by
  exact record?_updateNode tree id other
    (fun record => record.setTopmost (directive.flagAfter record.topmost))
    fun node => Node.record_setTopmost node (directive.flagAfter node.topmost)

/-! ## Surfaces -/

theorem record?_setSurfaces (tree : Tree) (id other : WindowId) (surfaces : Surface.Slots) :
    (tree.updateNode id fun node => { node with surfaces }).record? other =
      if other = id then (tree.record? other).map fun record => { record with surfaces }
      else tree.record? other :=
  record?_updateNode tree id other (fun record => { record with surfaces }) fun _ => rfl

/-- A backing that comes gives the window the layouts of a parked and of a restored container. -/
theorem surfaceAvailable_eq_ok {kind : Surface.Kind} {handle : Surface.Handle}
    (accepted : tree.surfaceAvailable id kind handle = .ok change) :
    ∃ node parking restoring, tree.node? id = some node ∧
      parkingCommands node kind = .ok parking ∧
      restoringCommands node kind (node.surfaces.bind kind handle).2 = .ok restoring ∧
      change =
        { tree := tree.updateNode id fun other =>
            { other with surfaces := (node.surfaces.bind kind handle).1 }
          commands := parking ++ restoring
          calls := [.surfaceChanged id (some handle) kind.isClient] } := by
  obtain ⟨node, found, bound⟩ := onLive_eq_ok accepted
  obtain ⟨parking, parked, rest⟩ := bind_eq_ok.mp bound
  obtain ⟨restoring, restored, rest⟩ := bind_eq_ok.mp rest
  exact ⟨node, parking, restoring, found, liftOverflow_eq_ok.mp parked,
    liftOverflow_eq_ok.mp restored, (pure_eq_ok.mp rest).symm⟩

theorem surfaceDestroyed_eq_ok {kind : Surface.Kind}
    (accepted : tree.surfaceDestroyed id kind = .ok change) :
    ∃ node, tree.node? id = some node ∧
      change =
        { tree := tree.updateNode id fun other =>
            { other with surfaces := (node.surfaces.release kind).1 }
          calls :=
            if (node.surfaces.get kind).isSome then [.surfaceChanged id none kind.isClient]
            else [] } := by
  obtain ⟨node, found, released⟩ := onLive_eq_ok accepted
  cases released
  exact ⟨node, found, rfl⟩

/-! ## The fate of a record -/

/-- How an event about a window edits its record. -/
inductive Edits (id : WindowId) (record : Node) : TreeEvent → Node → Prop where
  | demoted {parent : WindowId} {scale : Binary32} (isTopLevel : record.isTopLevel = true) :
      Edits id record (.reparent id parent scale) (record.rebuilt .child)
  | promoted {parent : WindowId} {scale : Binary32} (isChild : record.kind = .child) :
      Edits id record (.reparent id parent scale) (record.rebuilt (.topLevel false))
  | placed (placement : Placement) :
      Edits id record (.position id placement) (record.placed placement)
  | restacked (placement : Placement) (flag : Bool) :
      Edits id record (.position id placement) ((record.placed placement).setTopmost flag)
  | titled (text : String) : Edits id record (.setText id text) { record with title := some text }
  | iconed (icon : Option Icon) : Edits id record (.setIcon id icon) { record with icon }
  | bound (kind : Surface.Kind) (handle : Surface.Handle) :
      Edits id record (.surfaceAvailable id kind handle)
        { record with surfaces := (record.surfaces.bind kind handle).1 }
  | released (kind : Surface.Kind) :
      Edits id record (.surfaceDestroyed id kind)
        { record with surfaces := (record.surfaces.release kind).1 }

/-- What an event makes of the record of a window. -/
inductive Fate (tree : Tree) (id : WindowId) : TreeEvent → Option Node → Prop where
  | kept (event : TreeEvent) : Fate tree id event (tree.record? id)
  | came {event : TreeEvent} (creates : event.creates id = true) (isNew : tree.node? id = none)
      (kind : Node.Kind) (process : UInt32) :
      Fate tree id event (some (newNode id kind Binary32.one process none))
  | edited {event : TreeEvent} {record after : Node} (found : tree.record? id = some record)
      (edits : Edits id record event after) : Fate tree id event (some after)
  | went {root : WindowId} (inSubtree : id = root ∨ root ∈ tree.ancestors id) :
      Fate tree id (.destroy root) none

theorem Fate.of_eq {event : TreeEvent} {after : Option Node}
    (same : after = tree.record? id) : Fate tree id event after :=
  same ▸ .kept event

theorem Fate.of_new {event : TreeEvent} {after : Option Node} {target : WindowId}
    (creates : event.creates target = true) (isNew : tree.node? target = none)
    {kind : Node.Kind} {process : UInt32}
    (records : after = if id = target then some (newNode target kind Binary32.one process none)
      else tree.record? id) : Fate tree id event after := by
  rw [records]
  split
  · next isTarget =>
      subst isTarget
      exact .came creates isNew kind process
  · exact .kept event

/-- An edit of the record of one window, if there is one. -/
theorem Fate.of_edit {event : TreeEvent} {after : Option Node} {target : WindowId}
    (edit : Node → Node)
    (records : after = if id = target then (tree.record? id).map edit else tree.record? id)
    (edits : ∀ record, tree.record? target = some record →
      Edits target record event (edit record)) :
    Fate tree id event after := by
  rw [records]
  split
  · next isTarget =>
      subst isTarget
      cases found : tree.record? id with
      | none => exact .of_eq found.symm
      | some record => exact .edited found (edits record found)
  · exact .kept event

theorem fate_reparent (forest : tree.Forest) {parent : WindowId} {scale : Binary32}
    (reparented : tree.reparent hasViews id parent scale = .ok change) (other : WindowId) :
    Fate tree other (.reparent id parent scale) (change.tree.record? other) := by
  obtain ⟨node, first, found, notDesktop, rfl, moves⟩ := reparent_eq_ok reparented
  have own : node.id = id := forest.stored id node found
  have ownRecord : ∀ record, tree.record? id = some record → record = node.record :=
    fun record isRecord => Option.some.inj (isRecord.symm.trans (record?_of_node? found))
  show Fate tree other _ ((first.tree.rescale id scale).record? other)
  rw [record?_rescale]
  rcases moves with rfl | ⟨hasParent, promoted⟩ | ⟨-, isTopLevel, demoted⟩ | ⟨-, -, -, moved⟩
  · exact .kept _
  · obtain ⟨views, -, rfl⟩ := promote_eq_ok promoted
    rw [own]
    refine .of_edit _ (record?_promoted tree id other) fun record isRecord => .promoted ?_
    have isChild : node.kind = .child := isChild_of_parent forest found hasParent
    rw [ownRecord record isRecord]
    exact isChild
  · obtain ⟨views, -, rfl⟩ := demote_eq_ok demoted
    rw [own]
    refine .of_edit _ (record?_demoted tree id parent other) fun record isRecord => .demoted ?_
    rw [ownRecord record isRecord]
    exact isTopLevel
  · obtain ⟨above, here, -, -, rfl⟩ := move_eq_ok moved
    rw [own]
    exact .of_eq (record?_moved tree id parent other)

theorem fate_position (forest : tree.Forest) {placement : Placement}
    (positioned : tree.position hasViews id placement = .ok change) (other : WindowId) :
    Fate tree other (.position id placement) (change.tree.record? other) := by
  obtain ⟨node, found, kinds⟩ := position_eq_ok positioned
  have own : node.id = id := forest.stored id node found
  have stored := record?_store tree id other placement
  have placed : Fate tree other (.position id placement)
      ((tree.store id placement).record? other) :=
    .of_edit _ stored fun _ _ => .placed placement
  rcases kinds with ⟨-, rfl⟩ | ⟨-, topLevel⟩ | ⟨-, child⟩
  · exact placed
  · obtain ⟨stacked, whole, footprint, notices, stacking, -, -, rfl⟩ :=
      positionTopLevel_eq_ok topLevel
    rw [own] at stacking
    rcases stacking with ⟨-, directive, rfl⟩ | ⟨-, rfl⟩
    · refine .of_edit (fun record => (record.placed placement).setTopmost
        (directive.flagAfter (record.placed placement).topmost)) ?_
        fun _ _ => .restacked placement _
      refine (record?_place (tree.store id placement) id other directive).trans ?_
      rw [stored]
      by_cases isId : other = id <;> simp [isId, Function.comp_def]
    · exact placed
  · obtain ⟨stacked, commands, notices, stacking, -, -, rfl⟩ := positionChild_eq_ok child
    rw [own] at stacking
    rcases stacking with ⟨rfl, -⟩ | ⟨-, parent, link, rfl⟩
    · exact placed
    · show Fate tree other _
        (((tree.store id placement).restackedUnder parent id placement.directive).record? other)
      rw [record?_restackedUnder]
      exact placed

/-- An event about a live window that makes one edit and then perhaps announces the title. -/
theorem Fate.of_updateNode {event : TreeEvent} {target : WindowId} (edit : Node → Node)
    (edits : ∀ node, (edit node).record = edit node.record)
    (isEdit : ∀ record, Edits target record event (edit record)) (id : WindowId) :
    Fate tree id event ((tree.updateNode target edit).record? id) :=
  .of_edit edit (record?_updateNode tree target id edit edits) fun record _ => isEdit record

theorem record?_announcingIf (topLevel : Bool) (change : Change) (id : WindowId) :
    (announcingIf topLevel change).tree.record? id = change.tree.record? id := by
  cases topLevel <;> rfl

/-- What an accepted event makes of the record of any window. -/
theorem fate_of_change (forest : tree.Forest) {event : TreeEvent}
    (accepted : tree.change hasViews event = .ok change) (other : WindowId) :
    Fate tree other event (change.tree.record? other) := by
  cases event with
  | createDesktop id =>
      obtain ⟨-, dead, -⟩ := createDesktop_eq_ok accepted
      exact .of_new (beq_self_eq_true id) (node?_eq_none_of_not_isLive dead)
        (record?_createDesktop accepted other)
  | create id parent scale accelerated process =>
      rcases record?_create accepted with same | ⟨isNew, kind, records⟩
      · exact .of_eq (same other)
      · exact .of_new (beq_self_eq_true id) isNew (records other)
  | startAccelerated id =>
      rw [startAccelerated_eq_ok accepted]
      exact .of_eq (record?_accelerate tree id other)
  | destroy id =>
      cases accepted
      rw [record?_destroy forest]
      split
      · next inSubtree => exact .went inSubtree
      · exact .kept _
  | reparent id parent scale => exact fate_reparent forest accepted other
  | position id placement => exact fate_position forest accepted other
  | focus id =>
      obtain ⟨node, -, focused⟩ := onLive_eq_ok accepted
      split at focused <;> cases focused <;> exact .kept _
  | setText id text =>
      obtain ⟨node, -, changed⟩ := onLive_eq_ok accepted
      cases changed
      rw [record?_announcingIf]
      exact .of_updateNode (fun node => { node with title := some text }) (fun _ => rfl)
        (fun _ => .titled text) other
  | setIcon id icon =>
      obtain ⟨node, -, changed⟩ := onLive_eq_ok accepted
      cases changed
      rw [record?_announcingIf]
      exact .of_updateNode (fun node => { node with icon }) (fun _ => rfl) (fun _ => .iconed icon)
        other
  | surfaceAvailable id kind handle =>
      obtain ⟨node, parking, restoring, found, -, -, rfl⟩ := surfaceAvailable_eq_ok accepted
      refine .of_edit _ (record?_setSurfaces tree id other _) fun record isRecord => ?_
      rw [Option.some.inj (isRecord.symm.trans (record?_of_node? found))]
      exact .bound kind handle
  | surfaceDestroyed id kind =>
      obtain ⟨node, found, rfl⟩ := surfaceDestroyed_eq_ok accepted
      refine .of_edit _ (record?_setSurfaces tree id other _) fun record isRecord => ?_
      rw [Option.some.inj (isRecord.symm.trans (record?_of_node? found))]
      exact .released kind
  | viewVisibility id kind visible =>
      obtain ⟨node, -, reported⟩ := onLive_eq_ok accepted
      cases reported
      exact .kept _
  | activityStarted =>
      cases accepted
      exact .kept _
  | activityStopped =>
      cases accepted
      exact .kept _

/-- The desktop window stays the desktop window. -/
theorem isDesktop_of_change (forest : tree.Forest) {event : TreeEvent}
    (accepted : tree.change hasViews event = .ok change) (isDesktop : tree.kind? id = some .desktop)
    (stays : change.tree.isLive id = true) : change.tree.kind? id = some .desktop := by
  have fate := fate_of_change forest accepted id
  rw [kind?_eq_record?] at isDesktop ⊢
  rw [isLive_eq_record?] at stays
  generalize change.tree.record? id = after at fate stays ⊢
  cases fate with
  | kept => exact isDesktop
  | came creates isNew => simp [record?, isNew] at isDesktop
  | went => cases stays
  | @edited _ record _ found edits =>
      have kindIs : record.kind = .desktop := by simpa [found] using isDesktop
      cases edits with
      | demoted isTopLevel => simp [Node.isTopLevel, kindIs] at isTopLevel
      | promoted isChild => simp [kindIs] at isChild
      | restacked placement flag => simp [Node.setTopmost, Node.placed, kindIs]
      | _ => exact congrArg some kindIs

/-- Only its own removal takes the desktop window away: it has no windows above it. -/
theorem desktop_of_change (forest : tree.Forest) {event : TreeEvent}
    (accepted : tree.change hasViews event = .ok change) (isDesktop : tree.desktop = some id)
    (notThis : event ≠ .destroy id) : change.tree.desktop = some id := by
  have kind := (forest.desktop id).mp isDesktop
  have root : tree.ancestors id = [] :=
    forest.ancestors_of_root (forest.anchored id _ kind (by simp))
  have stays : change.tree.isLive id = true := by
    have fate := fate_of_change forest accepted id
    rw [isLive_eq_record?]
    generalize change.tree.record? id = after at fate ⊢
    cases fate with
    | kept =>
        obtain ⟨record, found, -⟩ := Option.map_eq_some_iff.mp ((kind?_eq_record? tree id) ▸ kind)
        rw [found]
        rfl
    | came | edited => rfl
    | @went above inSubtree =>
        rcases inSubtree with rfl | member
        · exact absurd rfl notThis
        · rw [root] at member
          cases member
  exact ((forest.ofChange accepted).desktop id).mpr
    (isDesktop_of_change forest accepted kind stays)

/-! ## Windows that stay -/

/-- Only the removal of a window takes windows away. -/
theorem isLive_of_change (forest : tree.Forest) {event : TreeEvent}
    (accepted : tree.change hasViews event = .ok change)
    (notDestroy : ∀ root, event ≠ .destroy root) (live : tree.isLive id = true) :
    change.tree.isLive id = true := by
  have fate := fate_of_change forest accepted id
  rw [isLive_eq_record?] at live ⊢
  generalize change.tree.record? id = after at fate ⊢
  cases fate with
  | kept => exact live
  | came => rfl
  | edited => rfl
  | went => exact absurd rfl (notDestroy _)

/-- The removal of a window leaves the windows that are neither it nor below it. -/
theorem isLive_destroy (forest : tree.Forest) {root : WindowId} :
    (tree.destroy root).tree.isLive id = true ↔
      tree.isLive id = true ∧ id ≠ root ∧ tree.isBelow id root = false := by
  have below : tree.isBelow id root = false ↔ root ∉ tree.ancestors id := by
    rw [isBelow, ← Bool.not_eq_true, List.contains_iff_mem]
  rw [isLive_eq_record?, record?_destroy forest, below, isLive_eq_record? tree]
  split
  · next inSubtree =>
      constructor
      · intro impossible
        cases impossible
      · rintro ⟨-, notRoot, notBelow⟩
        exact absurd inSubtree (by simp [notRoot, notBelow])
  · next outside =>
      rw [not_or] at outside
      simp [outside]

theorem isBelow_self (forest : tree.Forest) (id : WindowId) : tree.isBelow id id = false := by
  rw [isBelow, ← Bool.not_eq_true, List.contains_iff_mem]
  exact (List.nodup_cons.mp (forest.ascent_ancestors id).nodup).1

end Tree

end WindowRelay
