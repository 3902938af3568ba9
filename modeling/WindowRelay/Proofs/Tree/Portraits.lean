import WindowRelay.Proofs.Tree.Records

/-!
Contract: what the views of one window are built from.

Owns:
- the portrait: kind, rectangles, style, parent link, surfaces and rendering mode of a window; its
  children, its scale, its titles and the topmost flag are set aside;
- one law for each elementary change and each restructuring event.

The record (`Proofs.Tree.Records`) sets the parent link and the rendering mode aside and keeps the
titles; a portrait does the opposite, because views are attached to a parent and rendered in a mode.
-/

namespace WindowRelay

/-- The kind without the topmost flag. -/
def Node.Kind.leveled : Node.Kind → Node.Kind
  | .topLevel _ => .topLevel false
  | kind => kind

/-- What the layouts and contents of the views of a window depend on. -/
def Node.portrait (node : Node) : Node :=
  { node with
    kind := node.kind.leveled
    children := []
    scale := Binary32.one
    title := none
    icon := none }

/-- A node whose views were rebuilt for another kind of window, under a parent or at the top
level. -/
def Node.relocated (node : Node) (kind : Node.Kind) (parent : Option WindowId) : Node :=
  { node.rebuilt kind with parent }

namespace Node

variable (node : Node)

@[simp] theorem surfaces_portrait : node.portrait.surfaces = node.surfaces := rfl

@[simp] theorem isTopLevel_portrait : node.portrait.isTopLevel = node.isTopLevel := by
  obtain ⟨id, kind⟩ := node
  cases kind <;> rfl

@[simp] theorem visible_portrait : node.portrait.visible = node.visible := by
  obtain ⟨id, kind⟩ := node
  cases kind <;> rfl

@[simp] theorem portrait_kind_eq_desktop :
    node.portrait.kind = .desktop ↔ node.kind = .desktop := by
  obtain ⟨id, kind⟩ := node
  cases kind <;> simp [portrait, Kind.leveled]

@[simp] theorem portrait_kind_eq_child : node.portrait.kind = .child ↔ node.kind = .child := by
  obtain ⟨id, kind⟩ := node
  cases kind <;> simp [portrait, Kind.leveled]

@[simp] theorem wholePlace_portrait : node.portrait.wholePlace = node.wholePlace := by
  unfold wholePlace
  rw [visible_portrait]
  rfl

@[simp] theorem portrait_setTopmost (flag : Bool) :
    (node.setTopmost flag).portrait = node.portrait := by
  obtain ⟨id, kind⟩ := node
  cases kind <;> rfl

theorem isTopLevel_eq_false_of_child {node : Node} (isChild : node.kind = .child) :
    node.isTopLevel = false := by
  simp [isTopLevel, isChild]

end Node

namespace Tree

def portrait? (tree : Tree) (id : WindowId) : Option Node :=
  (tree.node? id).map Node.portrait

variable {tree : Tree} {id other : WindowId} {node : Node} {change : Change}

theorem portrait?_of_node? (found : tree.node? id = some node) :
    tree.portrait? id = some node.portrait := by
  simp [portrait?, found]

theorem kind?_eq_desktop_iff (found : tree.portrait? id = some node) :
    tree.kind? id = some .desktop ↔ node.kind = .desktop := by
  obtain ⟨whole, wholeFound, rfl⟩ := Option.map_eq_some_iff.mp found
  rw [kind?_of_node? wholeFound, Option.some.injEq, Node.portrait_kind_eq_desktop]

theorem isLive_eq_portrait? (tree : Tree) (id : WindowId) :
    tree.isLive id = (tree.portrait? id).isSome := by
  simp [isLive_eq, portrait?]

/-! ## Elementary changes -/

section Elementary

variable (tree : Tree) (id other : WindowId)

theorem portrait?_addNode (node : Node) :
    (tree.addNode node).portrait? other =
      if other = node.id then some node.portrait else tree.portrait? other := by
  unfold portrait?
  rw [node?_addNode]
  split <;> rfl

theorem portrait?_dropNode :
    (tree.dropNode id).portrait? other = if other = id then none else tree.portrait? other := by
  unfold portrait?
  rw [node?_dropNode]
  split <;> rfl

/-- A change of a node that is an edit of its portrait. -/
theorem portrait?_updateNode {change : Node → Node} (edit : Node → Node)
    (edits : ∀ node, (change node).portrait = edit node.portrait) :
    (tree.updateNode id change).portrait? other =
      if other = id then (tree.portrait? other).map edit else tree.portrait? other := by
  unfold portrait?
  rw [node?_updateNode]
  split <;> simp [Function.comp_def, edits]

theorem portrait?_updateNode_of_keeps {change : Node → Node}
    (keeps : ∀ node, (change node).portrait = node.portrait) :
    (tree.updateNode id change).portrait? other = tree.portrait? other := by
  rw [portrait?_updateNode tree id other (fun portrait => portrait) keeps]
  simp

@[simp] theorem portrait?_unlink (parent : Option WindowId) :
    (tree.unlink parent id).portrait? other = tree.portrait? other := by
  cases parent with
  | none => rfl
  | some parent => exact portrait?_updateNode_of_keeps tree parent other fun _ => rfl

@[simp] theorem portrait?_appendChild (parent : WindowId) :
    (tree.appendChild parent id).portrait? other = tree.portrait? other :=
  portrait?_updateNode_of_keeps tree parent other fun _ => rfl

@[simp] theorem portrait?_awaiting (target : Option WindowId) :
    (tree.awaiting target id).portrait? other = tree.portrait? other := by
  cases target with
  | none => rfl
  | some parent => exact portrait?_appendChild tree id other parent

@[simp] theorem portrait?_rescale (scale : Binary32) :
    (tree.rescale id scale).portrait? other = tree.portrait? other := by
  unfold portrait?
  rw [node?_rescale, Option.map_map]
  congr 1
  funext node
  by_cases inSubtree : other ∈ tree.subtree id <;> simp [inSubtree, Node.portrait]

@[simp] theorem portrait?_restackedUnder (parent : WindowId) (directive : Directive) :
    (tree.restackedUnder parent id directive).portrait? other = tree.portrait? other :=
  portrait?_updateNode_of_keeps tree parent other fun _ => rfl

@[simp] theorem portrait?_place (directive : Directive) :
    (tree.place id directive).portrait? other = tree.portrait? other :=
  portrait?_updateNode_of_keeps tree id other fun node => node.portrait_setTopmost _

theorem portrait?_accelerate :
    (tree.accelerate id).tree.portrait? other =
      if other = id then (tree.portrait? other).map fun node => { node with accelerated := true }
      else tree.portrait? other :=
  portrait?_updateNode tree id other (fun node => { node with accelerated := true }) fun _ => rfl

theorem portrait?_store (placement : Placement) :
    (tree.store id placement).portrait? other =
      if other = id then (tree.portrait? other).map (·.placed placement)
      else tree.portrait? other :=
  portrait?_updateNode tree id other (·.placed placement) fun _ => rfl

theorem portrait?_setSurfaces (surfaces : Surface.Slots) :
    (tree.updateNode id fun node => { node with surfaces }).portrait? other =
      if other = id then (tree.portrait? other).map fun node => { node with surfaces }
      else tree.portrait? other :=
  portrait?_updateNode tree id other (fun node => { node with surfaces }) fun _ => rfl

end Elementary

/-! ## Windows that move -/

section Moves

variable (tree : Tree) (id parent other : WindowId)

theorem portrait?_demoted :
    (tree.demoted id parent).portrait? other =
      if other = id then (tree.portrait? other).map (·.relocated .child (some parent))
      else tree.portrait? other := by
  unfold demoted
  rw [portrait?_appendChild]
  exact portrait?_updateNode (tree.unlistTopLevel id) id other
    (·.relocated .child (some parent)) fun _ => rfl

theorem portrait?_promoted :
    (tree.promoted id).portrait? other =
      if other = id then (tree.portrait? other).map (·.relocated (.topLevel false) none)
      else tree.portrait? other := by
  refine (portrait?_updateNode (tree.unlink (tree.parent? id) id) id other
    (·.relocated (.topLevel false) none) fun _ => rfl).trans ?_
  rw [portrait?_unlink]

theorem portrait?_moved :
    (tree.moved id parent).portrait? other =
      if other = id then (tree.portrait? other).map fun node => { node with parent := some parent }
      else tree.portrait? other := by
  unfold moved
  rw [portrait?_appendChild, portrait?_updateNode _ id other
    (fun node => { node with parent := some parent }) fun _ => rfl, portrait?_unlink]

end Moves

/-! ## Windows that go -/

theorem portrait?_destroyOne (tree : Tree) {window : WindowId} (different : other ≠ window) :
    (tree.destroyOne window).tree.portrait? other = tree.portrait? other := by
  unfold destroyOne
  split
  · rfl
  · next node found =>
      have dropped : (tree.dropNode window).portrait? other = tree.portrait? other := by
        rw [portrait?_dropNode, if_neg different]
      cases node.kind with
      | topLevel flag => exact dropped
      | child => exact (portrait?_unlink _ window other node.parent).trans dropped
      | desktop => exact dropped

end Tree

end WindowRelay
