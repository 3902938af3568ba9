import WindowRelay.Proofs.Tree.Removal

/-!
Contract: a window that moves with everything below it.

Owns:
- a move of a window keeps the list of the windows that move along;
- moves that keep the place of the window, and moves that change it;
- every accepted move is one of these, depending on where the window stood before.

Which windows get the new scale is decided on the tree after the move. Because the window cannot
move to a place below itself, its subtree is the same before and after.
-/

namespace WindowRelay

namespace Tree

variable {tree before after : Tree} {id parent : WindowId} {target : Option WindowId}
  {node : Node} {scale : Binary32} {change : Change} {hasViews : WindowId → Bool}

/-! ## What a move is -/

/-- The parent that a move names. Zero stands for the top level. -/
def namedParent (parent : WindowId) : Option WindowId :=
  if parent = WindowId.absent then none else some parent

/-- The window stands already where the move would bring it: under the named parent, or, if none
is named, at the top level or as the message-only window without a parent. -/
def Settled (tree : Tree) (id parent : WindowId) : Prop :=
  (parent ≠ WindowId.absent ∧ tree.parent? id = some parent) ∨
    (parent = WindowId.absent ∧
      (tree.holds Node.isTopLevel id = true ∨
        (id = WindowId.messageOnly ∧ tree.parent? id = none)))

instance : Decidable (tree.Settled id parent) :=
  inferInstanceAs (Decidable (_ ∨ _))

/-- The move makes a top-level window a child, or a child a top-level window. -/
def changesLevel (tree : Tree) (id : WindowId) (target : Option WindowId) : Bool :=
  tree.holds Node.isTopLevel id != target.isNone

/-- Nothing but the scale of the subtree changes. -/
structure KeepsPlace (tree : Tree) (id : WindowId) (scale : Binary32) (after : Tree)
    (calls : List Call) : Prop where
  nodes : ∀ other, after.node? other = (tree.node? other).map fun node =>
    { node with scale := if other ∈ tree.subtree id then scale else node.scale }
  order : after.order = tree.order
  desktop : after.desktop = tree.desktop
  calls : calls = []

/-- The window leaves its place, comes to the front of its new parent or to the back of the
top-level order, and takes its subtree along. -/
structure ChangesPlace (tree : Tree) (id : WindowId) (target : Option WindowId) (scale : Binary32)
    (after : Tree) (calls : List Call) : Prop where
  nodes : ∀ other, after.node? other = (tree.node? other).map fun node =>
    { node with
      scale := if other ∈ tree.subtree id then scale else node.scale
      kind := if other = id then kindUnder target else node.kind
      parent := if other = id then target else node.parent
      surfaces := if other = id ∧ tree.changesLevel id target = true then {} else node.surfaces
      children :=
        (if tree.parent? id = some other then Stacking.without node.children id
          else node.children) ++ if target = some other then [id] else [] }
  inFront : ∀ parent, target = some parent → after.children parent =
    Stacking.without (tree.children parent) id ++ [id]
  order : after.order =
    if target = none then id :: Stacking.without tree.order id
    else Stacking.without tree.order id
  desktop : after.desktop = tree.desktop
  below : ∀ other ∈ tree.subtree id, after.children other = tree.children other
  subtree : after.subtree id = tree.subtree id
  calls : calls = if tree.changesLevel id target = true then tree.farewell id else []

/-! ## The windows that move along -/

theorem Rehomed.children_of_mem_subtree {kind : Option Node.Kind} {style : Option Style}
    (rehomed : Rehomed before after id kind style target) (forest : before.Forest)
    {other : WindowId} (member : other ∈ before.subtree id) :
    after.children other = before.children other := by
  have below := ((mem_subtree_iff forest).mp member).2
  have ascent := forest.ascent_ancestors other
  have reached : id ∈ other :: before.ancestors other :=
    List.mem_cons.mpr (below.imp_left Eq.symm)
  have notTarget : target ≠ some other := fun isTarget => by
    obtain ⟨chain, otherAscent, avoids⟩ := rehomed.above other isTarget
    exact avoids (otherAscent.unique ascent ▸ reached)
  have notListed : id ∉ before.children other := fun isChild => by
    -- A window that is listed by one of its own descendants would stand above itself.
    have link := (forest.links.linked id other).mpr isChild
    have whole : Ascent before.parent? id (other :: before.ancestors other) := .step link ascent
    exact (List.nodup_cons.mp whole.nodup).1 reached
  rw [rehomed.lists, if_neg notTarget, List.append_nil, Stacking.without_of_notMem notListed]

theorem Rehomed.subtree_eq {kind : Node.Kind} {style : Option Style}
    (rehomed : Rehomed before after id (some kind) style target) (forest : before.Forest)
    (live : before.isLive id = true) : after.subtree id = before.subtree id := by
  refine subtree_congr forest (forest.ofRehomed rehomed) live (fun other member => ?_)
    fun other member => rehomed.children_of_mem_subtree forest member
  rw [isLive_eq_kind?, rehomed.kinds]
  split
  · rfl
  · rw [← isLive_eq_kind?]
    exact ((mem_subtree_iff forest).mp member).1

/-! ## The three moves -/

theorem node?_relinked (forest : tree.Forest) {update : Node → Node}
    (nodes : after.nodes =
      (((tree.unlink (tree.parent? id) id).updateNode id update).awaiting target id).nodes)
    (other : WindowId) :
    after.node? other = (tree.node? other).map fun node =>
      let left : Node := { node with children := Stacking.without node.children id }
      let own := if other = id then update left else left
      { own with children := own.children ++ if target = some other then [id] else [] } := by
  rw [node?_congr nodes, node?_awaiting, node?_updateNode, forest.node?_unlink]
  by_cases isId : other = id <;> simp [isId, Function.comp_def]

/-- The desktop window is not the one that moves. -/
theorem Rehomed.desktop_eq {kind : Node.Kind} {style : Option Style}
    (rehomed : Rehomed before after id (some kind) style target) (notDesktop : kind ≠ .desktop)
    (other : before.desktop ≠ some id) : after.desktop = before.desktop := by
  refine Option.ext fun window => ?_
  rw [rehomed.desktop]
  split
  · next isId => simp [isId, notDesktop, other]
  · rfl

/-- A window that was relinked and given its scale has changed its place. -/
theorem changesPlace_of_relinked (forest : tree.Forest) (found : tree.node? id = some node)
    (notDesktop : node.kind ≠ .desktop) {first : Tree} (update : Node → Node)
    (rehomed : Rehomed tree first id (some (kindUnder target)) (some node.style) target)
    (nodes : first.nodes =
      (((tree.unlink (tree.parent? id) id).updateNode id update).awaiting target id).nodes)
    (updates : ∀ children, update { node with children } =
      { node with
        children
        kind := kindUnder target
        parent := target
        surfaces := if tree.changesLevel id target = true then {} else node.surfaces })
    (scale : Binary32) {calls : List Call}
    (called : calls = if tree.changesLevel id target = true then tree.farewell id else []) :
    ChangesPlace tree id target scale (first.rescale id scale) calls := by
  have live : tree.isLive id = true := isLive_iff.mpr ⟨node, found⟩
  have last := rehomed.withLook (sameLook_rescale first id scale)
  have otherDesktop : tree.desktop ≠ some id :=
    forest.desktop_ne (by simp [kind?_of_node? found, notDesktop])
  have notKind : kindUnder target ≠ .desktop := by cases target <;> simp [kindUnder]
  exact
    { nodes := fun other => by
        rw [node?_rescale, rehomed.subtree_eq forest live, node?_relinked forest nodes]
        cases foundOther : tree.node? other with
        | none => rfl
        | some otherNode =>
            have lists := forest.without_children foundOther id
            by_cases isId : other = id
            · subst isId
              obtain rfl : node = otherNode := Option.some.inj (found.symm.trans foundOther)
              simp only [Option.map_some, if_true, updates, true_and]
              rw [← lists]
              split <;> rfl
            · simp only [Option.map_some, isId, if_false, false_and]
              rw [← lists]
              split <;> rfl
      inFront := fun parent isTarget => by rw [last.lists, if_pos isTarget]
      order := by
        rw [last.order]
        cases target <;> simp [kindUnder]
      desktop := last.desktop_eq notKind otherDesktop
      below := fun other member => last.children_of_mem_subtree forest member
      subtree := last.subtree_eq forest live
      calls := called }

theorem changesPlace_promote (forest : tree.Forest) (found : tree.node? id = some node)
    (isChild : node.kind = .child) (promoted : tree.promote node = .ok change)
    (scale : Binary32) :
    ChangesPlace tree id none scale (change.tree.rescale id scale) change.calls := by
  obtain ⟨views, -, rfl⟩ := promote_eq_ok promoted
  have own : node.id = id := forest.stored id node found
  have level : tree.changesLevel id none = true := by
    simp [changesLevel, holds, found, Node.isTopLevel, isChild]
  have rehomed : Rehomed tree (tree.promoted id).announce id (some (kindUnder none))
      (some node.style) none :=
    (rehomed_promoted forest found isChild).withLook (sameLook_announce _)
  rw [own]
  refine changesPlace_of_relinked forest found (by simp [isChild])
    (fun node => { node with kind := .topLevel false, parent := none, surfaces := {} }) rehomed rfl
    (fun children => ?_) scale ?_
  · rw [if_pos level]
    rfl
  · rw [if_pos level]
    exact releaseCalls_eq_farewell forest.stored found

theorem changesPlace_demote (forest : tree.Forest) (found : tree.node? id = some node)
    (isTopLevel : node.isTopLevel = true) (admits : tree.Admits id parent)
    (demoted : tree.demote hasViews node parent = .ok change) (scale : Binary32) :
    ChangesPlace tree id (some parent) scale (change.tree.rescale id scale) change.calls := by
  obtain ⟨views, -, rfl⟩ := demote_eq_ok demoted
  have own : node.id = id := forest.stored id node found
  have notChild : node.kind ≠ .child := fun same => by simp [Node.isTopLevel, same] at isTopLevel
  have notDesktop : node.kind ≠ .desktop := fun same => by
    simp [Node.isTopLevel, same] at isTopLevel
  have parentless : tree.parent? id = none :=
    forest.anchored id node.kind (kind?_of_node? found) notChild
  have level : tree.changesLevel id (some parent) = true := by
    simp [changesLevel, holds, found, isTopLevel]
  have rehomed : Rehomed tree (tree.demoted id parent).announce id
      (some (kindUnder (some parent))) (some node.style) (some parent) :=
    (rehomed_demoted forest found isTopLevel admits).withLook (sameLook_announce _)
  rw [own]
  refine changesPlace_of_relinked forest found notDesktop
    (fun node => { node with kind := .child, parent := some parent, surfaces := {} }) rehomed ?_
    (fun children => ?_) scale ?_
  · rw [parentless]
    rfl
  · rw [if_pos level]
    rfl
  · rw [if_pos level]
    exact releaseCalls_eq_farewell forest.stored found

theorem changesPlace_move (forest : tree.Forest) (found : tree.node? id = some node)
    (isChild : node.kind = .child) (admits : tree.Admits id parent)
    (moved : tree.move hasViews node parent = .ok change) (scale : Binary32) :
    ChangesPlace tree id (some parent) scale (change.tree.rescale id scale) change.calls := by
  obtain ⟨above, here, -, -, rfl⟩ := move_eq_ok moved
  have own : node.id = id := forest.stored id node found
  have level : ¬ tree.changesLevel id (some parent) = true := by
    simp [changesLevel, holds, found, Node.isTopLevel, isChild]
  rw [own]
  refine changesPlace_of_relinked forest found (by simp [isChild])
    (fun node => { node with parent := some parent }) (rehomed_moved forest found isChild admits)
    rfl (fun children => ?_) scale ?_
  · rw [if_neg level, kindUnder, ← isChild]
  · rw [if_neg level]

/-! ## Every accepted move -/

theorem keepsPlace_rescale (tree : Tree) (id : WindowId) (scale : Binary32) :
    KeepsPlace tree id scale (tree.rescale id scale) [] where
  nodes other := by
    rw [node?_rescale]
    congr 1
    funext node
    split <;> rfl
  order := rfl
  desktop := rfl
  calls := rfl

/-- A window without a parent that can move is a top-level window or the message-only window. -/
theorem isTopLevel_or_messageOnly (forest : tree.Forest) (found : tree.node? id = some node)
    (notDesktop : node.kind ≠ .desktop) (parentless : tree.parent? id = none) :
    tree.holds Node.isTopLevel id = true ∨ id = WindowId.messageOnly := by
  cases kindIs : node.kind with
  | desktop => exact absurd kindIs notDesktop
  | topLevel flag =>
      exact .inl (holds_isTopLevel_iff.mpr ⟨flag, kindIs ▸ kind?_of_node? found⟩)
  | child => exact .inr (forest.detached id (kindIs ▸ kind?_of_node? found) parentless)

/-- A move keeps the place of a window that stands there already, and changes that of any other. -/
theorem transfers_reparent (forest : tree.Forest)
    (reparented : tree.reparent hasViews id parent scale = .ok change) :
    (tree.Settled id parent → KeepsPlace tree id scale change.tree change.calls) ∧
    (¬ tree.Settled id parent →
      ChangesPlace tree id (namedParent parent) scale change.tree change.calls) := by
  obtain ⟨node, first, found, notDesktop, rfl, moves⟩ := reparent_cases reparented
  have link : tree.parent? id = node.parent := parent?_of_node? found
  have level : tree.holds Node.isTopLevel id = node.isTopLevel := by simp [holds, found]
  rcases moves with ⟨rfl, ⟨parentless, rfl⟩ | ⟨hasParent, promoted⟩⟩ |
    ⟨notAbsent, admits, ⟨isTopLevel, demoted⟩ | ⟨-, sameParent, rfl⟩ |
      ⟨notTopLevel, otherParent, moved⟩⟩
  · have settled : tree.Settled id WindowId.absent := by
      rw [parentless] at link
      exact .inr ⟨rfl, (isTopLevel_or_messageOnly forest found notDesktop link).imp_right
        fun isMessageOnly => ⟨isMessageOnly, link⟩⟩
    exact ⟨fun _ => keepsPlace_rescale tree id scale, fun other => absurd settled other⟩
  · have isChild := isChild_of_parent forest found hasParent
    have unsettled : ¬ tree.Settled id WindowId.absent := by
      rintro (⟨notAbsent, -⟩ | ⟨-, isTopLevel | ⟨-, parentless⟩⟩)
      · exact notAbsent rfl
      · simp [level, Node.isTopLevel, isChild] at isTopLevel
      · simp [← link, parentless] at hasParent
    exact ⟨fun settled => absurd settled unsettled,
      fun _ => changesPlace_promote forest found isChild promoted scale⟩
  · have named : namedParent parent = some parent := if_neg notAbsent
    have unsettled : ¬ tree.Settled id parent := by
      rintro (⟨-, linked⟩ | ⟨isAbsent, -⟩)
      · have isChild := isChild_of_parent forest found (by rw [← link, linked]; rfl)
        simp [Node.isTopLevel, isChild] at isTopLevel
      · exact notAbsent isAbsent
    rw [named]
    exact ⟨fun settled => absurd settled unsettled,
      fun _ => changesPlace_demote forest found isTopLevel admits demoted scale⟩
  · have settled : tree.Settled id parent := .inl ⟨notAbsent, link.trans sameParent⟩
    exact ⟨fun _ => keepsPlace_rescale tree id scale, fun other => absurd settled other⟩
  · have named : namedParent parent = some parent := if_neg notAbsent
    have unsettled : ¬ tree.Settled id parent := by
      rintro (⟨-, linked⟩ | ⟨isAbsent, -⟩)
      · exact otherParent (link.symm.trans linked)
      · exact notAbsent isAbsent
    have isChild := isChild_of_neither notDesktop notTopLevel
    rw [named]
    exact ⟨fun settled => absurd settled unsettled,
      fun _ => changesPlace_move forest found isChild admits moved scale⟩

end Tree

end WindowRelay
