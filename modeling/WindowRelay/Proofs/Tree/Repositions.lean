import WindowRelay.Proofs.Tree.Commands
import WindowRelay.Proofs.Tree.Evolution

/-!
Contract: what a placement changes, and what it leaves alone.

Owns:
- the nodes, the order and the desktop window after a placement;
- without a stacking directive, the value that names the place has no influence;
- the commands of a placement are for the window itself, or only arrange windows.

Geometry and stacking are told apart here by one flag of the placement. Rectangles, style and owner
are stored in any case.
-/

namespace WindowRelay

namespace Tree

variable {tree after : Tree} {id : WindowId} {node : Node} {placement : Placement}
  {change : Change} {hasViews : WindowId → Bool}

/-- The window has the rectangles, the style and the owner of the placement. A directive may have
changed the topmost flag and the order of a top-level window, or the place of a child among its
siblings, and nothing else is changed. -/
structure Repositions (tree : Tree) (id : WindowId) (placement : Placement) (after : Tree) :
    Prop where
  own : ∃ node kind, tree.node? id = some node ∧
    after.node? id = some
      { node with
        windowRect := placement.windowRect
        clientRect := placement.clientRect
        visibleRect := placement.visibleRect
        style := placement.style
        owner := placement.owner
        kind } ∧
    (kind = node.kind ∨
      (placement.reorders = true ∧ ∃ before flag,
        node.kind = .topLevel before ∧ kind = .topLevel flag))
  siblings : placement.reorders = true → ∀ parent, tree.parent? id = some parent →
    ∃ above children, tree.node? parent = some above ∧
      after.node? parent = some { above with children } ∧
      Stacking.Reinserted (Stacking.without above.children id) id children placement.directive
  others : ∀ other, other ≠ id →
    (placement.reorders = true → tree.parent? id ≠ some other) →
    after.node? other = tree.node? other
  order : placement.reorders = false ∨ tree.holds Node.isTopLevel id = false →
    after.order = tree.order
  desktop : after.desktop = tree.desktop

/-! ## The tree -/

theorem Repositions.announce (repositions : Repositions tree id placement after) :
    Repositions tree id placement after.announce :=
  ⟨repositions.own, repositions.siblings, repositions.others, repositions.order,
    repositions.desktop⟩

theorem node?_store (tree : Tree) (id other : WindowId) (placement : Placement) :
    (tree.store id placement).node? other =
      if other = id then (tree.node? other).map (·.placed placement) else tree.node? other :=
  node?_updateNode tree id other _

/-- A placement that stacks nothing. -/
theorem repositions_store (found : tree.node? id = some node)
    (alone : placement.reorders = true → tree.parent? id = none) :
    Repositions tree id placement (tree.store id placement) where
  own := ⟨node, node.kind, found, node?_store_self found, .inl rfl⟩
  siblings reorders parent link := by
    rw [alone reorders] at link
    cases link
  others other different _ := by rw [node?_store, if_neg different]
  order _ := rfl
  desktop := rfl

theorem repositions_place (forest : tree.Forest) (found : tree.node? id = some node) {flag : Bool}
    (isTopLevel : node.kind = .topLevel flag) (reorders : placement.reorders = true)
    (directive : Directive) :
    Repositions tree id placement ((tree.store id placement).place id directive) where
  own := ⟨node, .topLevel (directive.flagAfter flag), found,
    node?_place_self directive (node?_store_self found) isTopLevel,
    .inr ⟨reorders, flag, _, isTopLevel, rfl⟩⟩
  siblings _ parent link := by
    have parentless := forest.anchored id node.kind (kind?_of_node? found) (by simp [isTopLevel])
    rw [parentless] at link
    cases link
  others other different _ := by
    rw [node?_place, if_neg different, node?_store, if_neg different]
  order unstacked := by
    have isListed : tree.holds Node.isTopLevel id = true :=
      holds_isTopLevel_iff.mpr ⟨flag, isTopLevel ▸ kind?_of_node? found⟩
    rw [reorders, isListed] at unstacked
    simp at unstacked
  desktop := rfl

theorem repositions_restackedUnder (forest : tree.Forest) (found : tree.node? id = some node)
    (reorders : placement.reorders = true) {parent : WindowId}
    (link : tree.parent? id = some parent) :
    Repositions tree id placement
      ((tree.store id placement).restackedUnder parent id placement.directive) := by
  have different : parent ≠ id := by
    rintro rfl
    have whole := Ascent.step link (forest.ascent_ancestors parent)
    exact (List.nodup_cons.mp whole.nodup).1 List.mem_cons_self
  have nodes := fun other => node?_updateNode (tree.store id placement) parent other fun node =>
    { node with children := Stacking.restackedChildren node.children id placement.directive }
  refine ⟨⟨node, node.kind, found, ?_, .inl rfl⟩, fun _ above aboveLink => ?_,
    fun other notId notParent => ?_, fun _ => rfl, rfl⟩
  · rw [restackedUnder, nodes, if_neg different.symm, node?_store_self found]
    rfl
  · obtain rfl : parent = above := Option.some.inj (link.symm.trans aboveLink)
    obtain ⟨aboveNode, aboveFound⟩ := isLive_iff.mp (forest.isLive_of_child link).2
    refine ⟨aboveNode, _, aboveFound, ?_, Stacking.reinserted_restackedChildren _ _ _⟩
    rw [restackedUnder, nodes, if_pos rfl, node?_store, if_neg different, aboveFound,
      Option.map_some]
  · have otherParent : other ≠ parent := fun isParent =>
      notParent reorders (link.trans (congrArg some isParent.symm))
    rw [restackedUnder, nodes, if_neg otherParent, node?_store, if_neg notId]

theorem repositions_position (forest : tree.Forest)
    (positioned : tree.position hasViews id placement = .ok change) :
    Repositions tree id placement change.tree := by
  obtain ⟨node, found, ⟨isDesktop, rfl⟩ | ⟨⟨flag, isTopLevel⟩, topLevel⟩ | ⟨isChild, child⟩⟩ :=
    position_eq_ok positioned
  · exact repositions_store found fun _ =>
      forest.anchored id node.kind (kind?_of_node? found) (by simp [isDesktop])
  · obtain ⟨stacked, whole, footprint, notices, stacking, -, -, rfl⟩ :=
      positionTopLevel_eq_ok topLevel
    rw [forest.stored id node found] at stacking
    rcases stacking with ⟨reorders, directive, rfl⟩ | ⟨keeps, rfl⟩
    · exact (repositions_place forest found isTopLevel reorders directive).announce
    · exact (repositions_store found fun reorders => by simp [keeps] at reorders).announce
  · obtain ⟨stacked, commands, notices, stacking, -, -, rfl⟩ := positionChild_eq_ok child
    rw [forest.stored id node found] at stacking
    have sameOutline := sameOutline_store tree id placement
    rcases stacking with ⟨rfl, dead⟩ | ⟨reorders, parent, link, rfl⟩
    · refine repositions_store found fun reorders => ?_
      -- The parent of a child is always live, so a child that is not stacked has none.
      by_contra hasParent
      obtain ⟨parent, link⟩ := Option.ne_none_iff_exists'.mp hasParent
      have parentDead := dead reorders (by rw [← parent?_of_node? found, link]; rfl) parent
        ((sameOutline.parent? id).trans link)
      rw [sameOutline.isLive, (forest.isLive_of_child link).2] at parentDead
      cases parentDead
    · rw [sameOutline.parent?] at link
      exact repositions_restackedUnder forest found reorders link

/-! ## The place that is named -/

/-- Without a stacking directive the value that names the place is not looked at. -/
theorem position_insertAfter (keeps : placement.reorders = false) (insertAfter : UInt32) :
    tree.position hasViews id { placement with insertAfter } =
      tree.position hasViews id placement := by
  have keepsToo : ({ placement with insertAfter } : Placement).reorders = false := keeps
  unfold position
  cases tree.node? id with
  | none => rfl
  | some node =>
      simp only [keeps, keepsToo, Bool.false_and, Bool.false_eq_true, if_false]
      cases node.kind with
      | desktop => rfl
      | topLevel flag =>
          simp only [positionTopLevel, keeps, keepsToo, Bool.false_eq_true, if_false]
          rfl
      | child =>
          simp only [positionChild, keeps, keepsToo, Bool.false_and, Bool.false_eq_true, if_false]
          rfl

/-! ## The commands -/

theorem altered_position (stored : tree.Stored)
    (positioned : tree.position hasViews id placement = .ok change) :
    ∀ window ∈ Scene.altered change.commands, window = id := by
  obtain ⟨node, found, ⟨-, rfl⟩ | ⟨-, topLevel⟩ | ⟨-, child⟩⟩ := position_eq_ok positioned
  · simp
  · obtain ⟨stacked, whole, footprint, notices, -, -, -, rfl⟩ := positionTopLevel_eq_ok topLevel
    have own : node.id = id := stored id node found
    have focusing := altered_focusCommands id node.visible (node.placed placement).visible
    have aligning : ∀ (resync : Prop) [Decidable resync],
        Scene.altered (if resync then [stacked.alignDesktopCommand] else []) = [] := by
      intro resync _
      split <;> rfl
    intro window member
    simp only [Change.announcing, own, Scene.altered_append, Scene.altered_cons,
      Scene.altered_nil, Scene.Command.alters?, aligning, altered_announceCommands,
      Option.toList_some, List.append_nil, List.mem_append, List.mem_singleton] at member
    rcases member with (isWhole | inFocus) | isClient
    · exact isWhole
    · exact focusing window inFocus
    · exact isClient
  · obtain ⟨stacked, commands, notices, -, unhosted, hosted, rfl⟩ := positionChild_eq_ok child
    have own : node.id = id := stored id node found
    cases views : hasViews node.id with
    | false => simp [unhosted views]
    | true =>
        obtain ⟨whole, footprint, -, -, rfl⟩ := hosted views
        split <;> simp [Scene.Command.alters?, own]

end Tree

end WindowRelay
