import WindowRelay.Proofs.Outcome
import WindowRelay.Proofs.Tree.Forest

/-!
Contract: changes of position, style and stacking, seen through what they do to the forest.

Owns:
- a placement changes the style of one window and nothing else that is asked about here;
- a directive for a top-level window changes its flag and the order;
- a directive for a child puts the children of its parent in another order;
- the form of the change that a successful placement makes.
-/

namespace WindowRelay

namespace Tree

variable {tree : Tree} {id : WindowId} {node : Node} {change : Change}

/-! ## Style -/

theorem sameOutline_store (tree : Tree) (id : WindowId) (placement : Placement) :
    SameOutline tree (tree.store id placement) :=
  sameOutline_updateNode tree id fun _ => rfl

theorem style?_store (tree : Tree) (id other : WindowId) (placement : Placement) :
    (tree.store id placement).style? other =
      if other = id then (tree.node? other).map fun _ => placement.style
      else tree.style? other :=
  style?_updateNode tree id other _

/-! ## Top-level windows -/

private theorem setTopmost_keeps (node : Node) (flag : Bool) :
    (node.setTopmost flag).id = node.id ∧ (node.setTopmost flag).style = node.style ∧
      (node.setTopmost flag).parent = node.parent ∧
      (node.setTopmost flag).children = node.children := by
  unfold Node.setTopmost
  cases node.kind <;> simp

section Place

variable {flag : Bool} (directive : Directive) (other : WindowId)

theorem node?_place : (tree.place id directive).node? other =
    if other = id then
      (tree.node? other).map fun node => node.setTopmost (directive.flagAfter node.topmost)
    else tree.node? other :=
  node?_updateNode tree id other _

theorem node?_place_self (found : tree.node? id = some node)
    (isTopLevel : node.kind = .topLevel flag) : (tree.place id directive).node? id =
      some { node with kind := .topLevel (directive.flagAfter flag) } := by
  rw [node?_place, if_pos rfl, found, Option.map_some, Node.setTopmost_of_kind isTopLevel,
    Node.topmost_of_kind isTopLevel]

theorem kind?_place (isTopLevel : tree.kind? id = some (.topLevel flag)) :
    (tree.place id directive).kind? other =
      if other = id then some (.topLevel (directive.flagAfter flag)) else tree.kind? other := by
  refine (kind?_updateNode tree id other _).trans ?_
  by_cases isId : other = id
  · obtain ⟨node, found, kindIs⟩ := Option.map_eq_some_iff.mp isTopLevel
    rw [if_pos isId, if_pos isId, isId, found, Option.map_some]
    rw [Node.setTopmost_of_kind kindIs, Node.topmost_of_kind kindIs]
  · rw [if_neg isId, if_neg isId]

@[simp] theorem style?_place : (tree.place id directive).style? other = tree.style? other := by
  refine (style?_updateNode tree id other _).trans ?_
  simp only [setTopmost_keeps, style?, ite_self]

@[simp] theorem parent?_place : (tree.place id directive).parent? other = tree.parent? other := by
  refine (parent?_updateNode tree id other _).trans ?_
  simp only [setTopmost_keeps, parent?, ite_self]

@[simp] theorem children_place :
    (tree.place id directive).children other = tree.children other :=
  children_updateNode tree id other fun node => (setTopmost_keeps node _).2.2.2

theorem Stored.place (stored : tree.Stored) : (tree.place id directive).Stored :=
  stored.updateNode id fun node => (setTopmost_keeps node _).1

end Place

theorem Forest.place {flag : Bool} (forest : tree.Forest)
    (isTopLevel : tree.kind? id = some (.topLevel flag)) (directive : Directive) :
    (tree.place id directive).Forest := by
  have member : id ∈ tree.order := (forest.listed id).mpr ⟨flag, isTopLevel⟩
  have sameWindows : (tree.place id directive).order.Perm tree.order :=
    Stacking.restacked_perm tree.isTopmost forest.listedOnce member directive
  have parentless : tree.parent? id = none := forest.anchored id _ isTopLevel (by simp)
  exact
    { stored := forest.stored.place directive
      links := by
        rw [funext (parent?_place directive), funext (children_place directive)]
        exact forest.links
      anchored := fun other kind isKind notChild => by
        rw [parent?_place]
        by_cases isId : other = id
        · exact isId ▸ parentless
        · rw [kind?_place directive other isTopLevel, if_neg isId] at isKind
          exact forest.anchored other kind isKind notChild
      detached := fun other isChild => by
        rw [parent?_place]
        rw [kind?_place directive other isTopLevel] at isChild
        split at isChild
        · cases isChild
        · exact forest.detached other isChild
      listed := fun other => by
        rw [sameWindows.mem_iff, forest.listed, kind?_place directive other isTopLevel]
        by_cases isId : other = id
        · simp [isId, isTopLevel]
        · rw [if_neg isId]
      listedOnce := sameWindows.nodup_iff.mpr forest.listedOnce
      desktop := fun other => by
        rw [kind?_place directive other isTopLevel]
        refine (forest.desktop other).trans ?_
        by_cases isId : other = id
        · simp [isId, isTopLevel]
        · rw [if_neg isId] }

theorem restack_eq_ok {directive : Directive} {after : Tree} {notices : List Notice}
    (restacked : tree.restack id directive = .ok (after, notices)) :
    after = tree.place id (directive.resolve tree.order) := by
  unfold restack at restacked
  split at restacked
  · cases restacked
  · split at restacked
    · cases restacked
    · cases restacked
      rfl

/-- A live window is stacked unless it is to be stacked after itself. -/
theorem succeeds_restack {directive : Directive} (live : tree.isLive id = true)
    (notSelf : directive ≠ .after id) : Succeeds (tree.restack id directive) := by
  unfold restack
  simp [live, notSelf, succeeds_ok]

/-! ## Children -/

/-- The children of a window after a directive for one of them. -/
def restackedUnder (tree : Tree) (parent id : WindowId) (directive : Directive) : Tree :=
  tree.updateNode parent fun node =>
    { node with children := Stacking.restackedChildren node.children id directive }

section RestackedUnder

variable (tree : Tree) (parent id other : WindowId) (directive : Directive)

@[simp] theorem kind?_restackedUnder :
    (tree.restackedUnder parent id directive).kind? other = tree.kind? other := by
  refine (kind?_updateNode tree parent other _).trans ?_
  simp only [kind?, ite_self]

@[simp] theorem style?_restackedUnder :
    (tree.restackedUnder parent id directive).style? other = tree.style? other := by
  refine (style?_updateNode tree parent other _).trans ?_
  simp only [style?, ite_self]

@[simp] theorem parent?_restackedUnder :
    (tree.restackedUnder parent id directive).parent? other = tree.parent? other := by
  refine (parent?_updateNode tree parent other _).trans ?_
  simp only [parent?, ite_self]

theorem children_restackedUnder (live : tree.isLive parent = true) :
    (tree.restackedUnder parent id directive).children other =
      if other = parent then Stacking.restackedChildren (tree.children other) id directive
      else tree.children other := by
  unfold restackedUnder Tree.children
  rw [node?_updateNode]
  by_cases isParent : other = parent
  · obtain ⟨node, found⟩ := isLive_iff.mp live
    simp [isParent, found]
  · simp [isParent]

end RestackedUnder

theorem Forest.restackedUnder {parent : WindowId} (forest : tree.Forest)
    (link : tree.parent? id = some parent) (directive : Directive) :
    (tree.restackedUnder parent id directive).Forest := by
  have live := (forest.isLive_of_child link).2
  have member := (forest.links.linked id parent).mp link
  exact
    { stored := forest.stored.updateNode parent fun _ => rfl
      links := by
        rw [funext fun other => parent?_restackedUnder tree parent id other directive]
        apply forest.links.reorder
        intro other
        rw [children_restackedUnder tree parent id other directive live]
        by_cases isParent : other = parent
        · rw [if_pos isParent]
          exact Stacking.restackedChildren_perm (forest.links.distinct other)
            (isParent ▸ member) directive
        · rw [if_neg isParent]
      anchored := by simpa using forest.anchored
      detached := by simpa using forest.detached
      listed := fun other => by
        rw [kind?_restackedUnder]
        exact forest.listed other
      listedOnce := forest.listedOnce
      desktop := fun other => by
        rw [kind?_restackedUnder]
        exact forest.desktop other }

/-- Only a child without a live parent is left where it is. -/
theorem restackChild_eq_ok {directive : Directive} {after : Tree} {notices : List Notice}
    (restacked : tree.restackChild id directive = .ok (after, notices)) :
    (after = tree ∧ ∀ parent, tree.parent? id = some parent → tree.isLive parent = false) ∨
      ∃ parent, tree.parent? id = some parent ∧
        after = tree.restackedUnder parent id directive := by
  unfold restackChild at restacked
  split at restacked
  · cases restacked
  · split at restacked
    · cases restacked
    · split at restacked
      · next parentless =>
          cases restacked
          exact .inl ⟨rfl, by simp [parentless]⟩
      · next parent link =>
          split at restacked
          · next dead =>
              cases restacked
              exact .inl ⟨rfl, by simpa [link] using dead⟩
          · cases restacked
            exact .inr ⟨parent, link, rfl⟩

theorem succeeds_restackChild {directive : Directive} (live : tree.isLive id = true)
    (notSelf : directive ≠ .after id) : Succeeds (tree.restackChild id directive) := by
  unfold restackChild
  rw [if_neg notSelf, if_neg (by simp [live])]
  split
  · exact succeeds_ok _
  · split
    · exact succeeds_ok _
    · exact succeeds_ok _

/-! ## Placements -/

theorem node?_store_self {placement : Placement} (found : tree.node? id = some node) :
    (tree.store id placement).node? id = some (node.placed placement) := by
  unfold store
  rw [node?_updateNode, if_pos rfl, found, Option.map_some]

/-- The commands of a placement for a top-level window. -/
theorem positionTopLevel_eq_ok {placement : Placement}
    (positioned : tree.positionTopLevel node placement = .ok change) :
    ∃ stacked whole footprint notices,
      ((placement.reorders = true ∧ ∃ directive,
          stacked = (tree.store node.id placement).place node.id directive) ∨
        (placement.reorders = false ∧ stacked = tree.store node.id placement)) ∧
      (node.placed placement).wholePlace = .ok whole ∧
      (node.placed placement).clientLayout >>= Layout.padded = .ok footprint ∧
      change = Change.announcing
        { tree := stacked
          commands := [.layout node.id .whole whole] ++
            focusCommands node.id node.visible (node.placed placement).visible ++
            [.layout node.id .client footprint] ++
            (if placement.reorders || node.visible != (node.placed placement).visible ||
                node.minimized != (node.placed placement).minimized then
              [stacked.alignDesktopCommand] else [])
          notices } := by
  unfold positionTopLevel at positioned
  obtain ⟨client, isClient, rest⟩ := bind_eq_ok.mp positioned
  obtain ⟨whole, isWhole, rest⟩ := bind_eq_ok.mp rest
  obtain ⟨footprint, isFootprint, rest⟩ := bind_eq_ok.mp rest
  rw [liftOverflow_eq_ok] at isClient isWhole isFootprint
  have inside := bind_eq_ok.mpr ⟨client, isClient, isFootprint⟩
  dsimp only at rest
  split at rest
  · next reorders =>
      obtain ⟨⟨stacked, notices⟩, restacked, rest⟩ := bind_eq_ok.mp rest
      have placed := restack_eq_ok (liftRefusal_eq_ok.mp restacked)
      exact ⟨stacked, whole, footprint, notices, .inl ⟨reorders, _, placed⟩, isWhole, inside,
        (pure_eq_ok.mp rest).symm⟩
  · next keeps =>
      obtain ⟨⟨stacked, notices⟩, stays, rest⟩ := bind_eq_ok.mp rest
      cases stays
      exact ⟨_, whole, footprint, [], .inr ⟨by simpa using keeps, rfl⟩, isWhole, inside,
        (pure_eq_ok.mp rest).symm⟩

/-- What the views of a child get after a placement. -/
private theorem childCommands_eq_ok {hasViews : WindowId → Bool} {placement : Placement}
    {stacked : Tree} {client : Rect} {notices : List Notice}
    (isClient : (node.placed placement).clientLayout = .ok client)
    (computed : (show Except Failure Change from
      if hasViews node.id then do
        let inParent ←
          match node.parent with
          | none => pure []
          | some parent =>
            let whole ← Layout.padded (node.placed placement).visibleRect
            pure (.layout node.id .whole whole ::
              stacked.childViewCommands parent node.id node.visible
                (node.placed placement).visible placement.reorders)
        let footprint ← Layout.padded client
        pure
          { tree := stacked
            commands := inParent ++ [.layout node.id .client footprint]
            notices }
      else
        pure { tree := stacked, notices }) = .ok change) :
    ∃ commands,
      (hasViews node.id = false → commands = []) ∧
      (hasViews node.id = true → ∃ whole footprint,
        (node.parent.isSome = true →
          Layout.padded (node.placed placement).visibleRect = .ok whole) ∧
        (node.placed placement).clientLayout >>= Layout.padded = .ok footprint ∧ commands =
        (match node.parent with
          | none => []
          | some parent => .layout node.id .whole whole ::
            stacked.childViewCommands parent node.id node.visible
              (node.placed placement).visible placement.reorders) ++
          [.layout node.id .client footprint]) ∧
      change = { tree := stacked, commands, notices } := by
  dsimp only at computed
  split at computed
  · next views =>
      cases parentIs : node.parent with
      | none =>
          rw [parentIs] at computed
          obtain ⟨inParent, nothing, rest⟩ := bind_eq_ok.mp computed
          cases nothing
          obtain ⟨footprint, isFootprint, rest⟩ := bind_eq_ok.mp rest
          have inside := bind_eq_ok.mpr ⟨client, isClient, liftOverflow_eq_ok.mp isFootprint⟩
          exact ⟨_, by simp [views], fun _ => ⟨Rect.zero, footprint, by simp, inside, rfl⟩,
            (pure_eq_ok.mp rest).symm⟩
      | some parent =>
          rw [parentIs] at computed
          obtain ⟨whole, isWhole, rest⟩ := bind_eq_ok.mp computed
          obtain ⟨inParent, commands, rest⟩ := bind_eq_ok.mp rest
          cases commands
          obtain ⟨footprint, isFootprint, rest⟩ := bind_eq_ok.mp rest
          have inside := bind_eq_ok.mpr ⟨client, isClient, liftOverflow_eq_ok.mp isFootprint⟩
          exact ⟨_, by simp [views],
            fun _ => ⟨whole, footprint, fun _ => liftOverflow_eq_ok.mp isWhole, inside, rfl⟩,
            (pure_eq_ok.mp rest).symm⟩
  · next noViews =>
      exact ⟨[], fun _ => rfl, fun views => absurd views noViews, (pure_eq_ok.mp computed).symm⟩

/-- The commands of a placement for a child. -/
theorem positionChild_eq_ok {hasViews : WindowId → Bool} {placement : Placement}
    (positioned : tree.positionChild hasViews node placement = .ok change) :
    ∃ stacked commands notices,
      ((stacked = tree.store node.id placement ∧
          (placement.reorders = true → node.parent.isSome = true → ∀ parent,
            (tree.store node.id placement).parent? node.id = some parent →
            (tree.store node.id placement).isLive parent = false)) ∨
        (placement.reorders = true ∧ ∃ parent,
          (tree.store node.id placement).parent? node.id = some parent ∧
          stacked = (tree.store node.id placement).restackedUnder parent node.id
            placement.directive)) ∧
      (hasViews node.id = false → commands = []) ∧
      (hasViews node.id = true → ∃ whole footprint,
        (node.parent.isSome = true →
          Layout.padded (node.placed placement).visibleRect = .ok whole) ∧
        (node.placed placement).clientLayout >>= Layout.padded = .ok footprint ∧ commands =
        (match node.parent with
          | none => []
          | some parent => .layout node.id .whole whole ::
            stacked.childViewCommands parent node.id node.visible
              (node.placed placement).visible placement.reorders) ++
          [.layout node.id .client footprint]) ∧
      change = { tree := stacked, commands, notices } := by
  unfold positionChild at positioned
  obtain ⟨client, clientLayout, rest⟩ := bind_eq_ok.mp positioned
  have isClient := liftOverflow_eq_ok.mp clientLayout
  dsimp only at rest
  split at rest
  · next reorders =>
      obtain ⟨⟨stacked, notices⟩, restacked, rest⟩ := bind_eq_ok.mp rest
      obtain ⟨commands, parts⟩ := childCommands_eq_ok isClient rest
      refine ⟨stacked, commands, notices, ?_, parts⟩
      rcases restackChild_eq_ok (liftRefusal_eq_ok.mp restacked) with ⟨stays, dead⟩ | placed
      · exact .inl ⟨stays, fun _ _ => dead⟩
      · exact .inr ⟨(Bool.and_eq_true_iff.mp reorders).1, placed⟩
  · next keeps =>
      obtain ⟨⟨stacked, notices⟩, stays, rest⟩ := bind_eq_ok.mp rest
      cases stays
      obtain ⟨commands, parts⟩ := childCommands_eq_ok isClient rest
      refine ⟨_, commands, [], .inl ⟨rfl, fun reorders hasParent => ?_⟩, parts⟩
      exact absurd (Bool.and_eq_true_iff.mpr ⟨reorders, hasParent⟩) keeps

theorem position_eq_ok {hasViews : WindowId → Bool} {placement : Placement}
    (positioned : tree.position hasViews id placement = .ok change) :
    ∃ node, tree.node? id = some node ∧
      ((node.kind = .desktop ∧ change = { tree := tree.store id placement }) ∨
        ((∃ flag, node.kind = .topLevel flag) ∧
          tree.positionTopLevel node placement = .ok change) ∨
        (node.kind = .child ∧ tree.positionChild hasViews node placement = .ok change)) := by
  unfold position at positioned
  cases found : tree.node? id with
  | none => simp [found] at positioned
  | some node =>
      simp only [found] at positioned
      refine ⟨node, rfl, ?_⟩
      split at positioned
      · cases positioned
      · cases kindIs : node.kind with
        | desktop =>
            simp only [kindIs, Except.ok.injEq] at positioned
            exact .inl ⟨rfl, positioned.symm⟩
        | topLevel flag =>
            simp only [kindIs] at positioned
            exact .inr (.inl ⟨⟨flag, rfl⟩, positioned⟩)
        | child =>
            simp only [kindIs] at positioned
            exact .inr (.inr ⟨rfl, positioned⟩)

end Tree

end WindowRelay
