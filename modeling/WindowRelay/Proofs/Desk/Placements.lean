import WindowRelay.Proofs.Desk.Agreement

/-!
Contract: the host keeps showing what the tree says while windows are placed.

Owns:
- a placement of the desktop window and of a top-level window, which touches the desktop container
  only;
- a placement of a child, which comes, goes, or changes places among its siblings.

A child is attached or detached when its visibility changes. Its place among the siblings matters
only while it is visible, so a change of places needs an alignment only if it was visible before and
still is.
-/

namespace WindowRelay

variable {tree after : Tree} {scene : Scene} {hosted shown : WindowId → Bool}
  {desktop : List WindowId} {id parent : WindowId} {node : Node} {change : Change}
  {placement : Placement}

/-! ## Style -/

namespace Tree

theorem isVisible_store_of_ne {other : WindowId} (different : other ≠ id) :
    (tree.store id placement).isVisible other = tree.isVisible other := by
  rw [isVisible_eq, isVisible_eq, (sameOutline_store tree id placement).kind?, style?_store,
    if_neg different]

theorem isStacked_store_of_ne {other : WindowId} (different : other ≠ id) :
    (tree.store id placement).holds Node.stackedVisible other =
      tree.holds Node.stackedVisible other := by
  rw [holds_stackedVisible_eq, holds_stackedVisible_eq, isVisible_store_of_ne different,
    style?_store, if_neg different]

end Tree

/-! ## The desktop window -/

theorem Shows.positionDesktop (shows : Shows tree scene) (forest : tree.Forest)
    (found : tree.node? id = some node) (isDesktop : node.kind = .desktop) :
    Shows (tree.store id placement) scene := by
  have same := Tree.sameOutline_store tree id placement
  have kindIs : tree.kind? id = some .desktop := isDesktop ▸ Tree.kind?_of_node? found
  have visibility : ∀ other,
      (tree.store id placement).isVisible other = tree.isVisible other := by
    intro other
    by_cases isId : other = id
    · rw [isId, Tree.isVisible_eq, Tree.isVisible_eq, same.kind?, kindIs]
      rfl
    · exact Tree.isVisible_store_of_ne isId
  refine ⟨shows.mounted.retree fun parent => ?_, shows.hosting.ofSameOutline same,
    shows.inStep.congr rfl fun other member => Tree.isStacked_store_of_ne fun isId => ?_⟩
  · rw [same.children, funext visibility]
  · exact forest.not_mem_order (fun flag => by simp [kindIs]) (isId ▸ member)

/-! ## Top-level windows -/

/-- What a placement of a top-level window sends before the container is aligned. -/
theorem Tree.quiet_topLevelLayouts (id : WindowId) (whole footprint : Rect) (before after : Bool) :
    ∀ command ∈ [.layout id .whole whole] ++ focusCommands id before after ++
      [.layout id .client footprint], command.isQuiet = true := by
  intro command member
  rcases List.mem_append.mp member with others | isFootprint
  · rcases List.mem_append.mp others with isWhole | isFocus
    · rw [List.mem_singleton.mp isWhole]
      rfl
    · unfold focusCommands at isFocus
      split at isFocus
      · cases isFocus
      · rw [List.mem_singleton.mp isFocus]
        rfl
  · rw [List.mem_singleton.mp isFootprint]
    rfl

/-- One top-level window has another style afterwards, and perhaps another flag and another place in
the order. -/
structure Tree.TopLevelPlaced (before after : Tree) (id : WindowId) : Prop where
  isTopLevel : ∃ flag, after.kind? id = some (.topLevel flag)
  kinds : ∀ other, other ≠ id → after.kind? other = before.kind? other
  styles : ∀ other, other ≠ id → after.style? other = before.style? other
  parents : ∀ other, after.parent? other = before.parent? other
  children : ∀ other, after.children other = before.children other
  order : before.order.Perm after.order

namespace Tree

theorem topLevelPlaced_store {flag : Bool} (isTopLevel : tree.kind? id = some (.topLevel flag)) :
    TopLevelPlaced tree (tree.store id placement) id where
  isTopLevel := ⟨flag, ((sameOutline_store tree id placement).kind? id).trans isTopLevel⟩
  kinds other _ := (sameOutline_store tree id placement).kind? other
  styles other different := by rw [style?_store, if_neg different]
  parents := (sameOutline_store tree id placement).parent?
  children := (sameOutline_store tree id placement).children
  order := List.Perm.refl _

theorem TopLevelPlaced.place (placed : TopLevelPlaced tree after id) (forest : after.Forest)
    (directive : Directive) : TopLevelPlaced tree (after.place id directive) id := by
  obtain ⟨flag, isTopLevel⟩ := placed.isTopLevel
  have kinds := fun other => kind?_place directive other isTopLevel
  have member : id ∈ after.order := (forest.listed id).mpr ⟨flag, isTopLevel⟩
  exact
    { isTopLevel := ⟨directive.flagAfter flag, (kinds id).trans (if_pos rfl)⟩
      kinds := fun other different => by rw [kinds, if_neg different, placed.kinds other different]
      styles := fun other different => (style?_place ..).trans (placed.styles other different)
      parents := fun other => (parent?_place ..).trans (placed.parents other)
      children := fun other => (children_place ..).trans (placed.children other)
      order := placed.order.trans
        (Stacking.restacked_perm after.isTopmost forest.listedOnce member directive).symm }

theorem TopLevelPlaced.isVisible_of_ne (placed : TopLevelPlaced tree after id) {other : WindowId}
    (different : other ≠ id) : after.isVisible other = tree.isVisible other := by
  rw [isVisible_eq, isVisible_eq, placed.kinds other different, placed.styles other different]

end Tree

theorem Hosting.topLevelPlaced (hosting : Hosting tree hosted)
    (placed : Tree.TopLevelPlaced tree after id) (isHosted : hosted id = true) :
    Hosting after hosted where
  live other otherHosted := by
    rw [Tree.isLive_eq_kind?]
    by_cases isId : other = id
    · obtain ⟨flag, isTopLevel⟩ := placed.isTopLevel
      rw [isId, isTopLevel]
      rfl
    · rw [placed.kinds other isId, ← Tree.isLive_eq_kind?]
      exact hosting.live other otherHosted
  views other kind isKind notDesktop := by
    by_cases isId : other = id
    · exact isId ▸ isHosted
    · exact hosting.views other kind ((placed.kinds other isId).symm.trans isKind) notDesktop
  above other parent link := hosting.above other parent ((placed.parents other).symm.trans link)

/-- If neither the order nor the visibility of the window changes, the desktop container needs no
alignment. -/
theorem InStep.store (inStep : InStep tree desktop) (found : tree.node? id = some node)
    (sameVisible : node.visible = (node.placed placement).visible)
    (sameMinimized : node.minimized = (node.placed placement).minimized) :
    InStep (tree.store id placement) desktop := by
  refine inStep.congr rfl fun other _ => ?_
  by_cases isId : other = id
  · have stored : (tree.store id placement).node? id = some (node.placed placement) :=
      Tree.node?_store_self found
    rw [isId, Tree.holds, Tree.holds, stored, found, Option.any_some, Option.any_some,
      Node.stackedVisible, Node.stackedVisible, sameVisible, sameMinimized]
  · exact Tree.isStacked_store_of_ne isId

theorem Shows.positionTopLevel (shows : Shows tree scene) (forest : tree.Forest)
    (found : tree.node? id = some node) {flag : Bool} (isTopLevel : node.kind = .topLevel flag)
    (positioned : tree.positionTopLevel node placement = .ok change) :
    Shows change.tree (scene.performAll change.commands) := by
  obtain ⟨stacked, whole, footprint, notices, stacking, -, -, rfl⟩ :=
    Tree.positionTopLevel_eq_ok positioned
  have own : node.id = id := forest.stored id node found
  subst own
  have kindIs : tree.kind? node.id = some (.topLevel flag) := isTopLevel ▸ Tree.kind?_of_node? found
  have parentless : tree.parent? node.id = none := forest.anchored _ _ kindIs (by simp)
  have storedForest := forest.ofSameOutline (Tree.sameOutline_store tree node.id placement)
  have storedPlaced : Tree.TopLevelPlaced tree (tree.store node.id placement) node.id :=
    Tree.topLevelPlaced_store kindIs
  have placed : stacked.Forest ∧ Tree.TopLevelPlaced tree stacked node.id := by
    rcases stacking with ⟨-, directive, rfl⟩ | ⟨-, rfl⟩
    · obtain ⟨storedFlag, storedKind⟩ := storedPlaced.isTopLevel
      exact ⟨storedForest.place storedKind directive, storedPlaced.place storedForest directive⟩
    · exact ⟨storedForest, storedPlaced⟩
  obtain ⟨stackedForest, stackedPlaced⟩ := placed
  have isHosted := shows.hosting.views node.id _ kindIs (by simp)
  have hosting := shows.hosting.topLevelPlaced stackedPlaced isHosted
  have mounted := (shows.mounted.retree fun parent => by rw [stackedPlaced.children]).quiet
    (Tree.quiet_topLevelLayouts node.id whole footprint node.visible
      (node.placed placement).visible)
  have onShow : ∀ other parent, stacked.parent? other = some parent →
      tree.isVisible other = stacked.isVisible other := by
    intro other parent link
    have different : other ≠ node.id := fun same => by
      simp [same, stackedPlaced.parents, parentless] at link
    exact (stackedPlaced.isVisible_of_ne different).symm
  refine Shows.announcing ?_
  dsimp only
  rw [Scene.performAll_append]
  split
  · refine Shows.of_mounted stackedForest (mounted.alignDesktop stacked.stackedWindows) hosting ?_
      onShow
    exact InStep.aligned shows.inStep.distinct
      (shows.inStep.sameWindows.trans stackedPlaced.order)
  · next noResync =>
      simp only [Bool.or_eq_true, bne_iff_ne, not_or, not_not] at noResync
      obtain ⟨⟨keepsOrder, sameVisible⟩, sameMinimized⟩ := noResync
      rcases stacking with ⟨reorders, -⟩ | ⟨-, rfl⟩
      · exact absurd reorders keepsOrder
      · exact Shows.of_mounted stackedForest mounted hosting
          (shows.inStep.store found sameVisible sameMinimized) onShow

/-! ## Children -/

/-- One child has another style afterwards, and perhaps another place among its siblings. -/
structure Tree.ChildPlaced (before after : Tree) (id : WindowId) (visible : Bool) : Prop where
  kinds : ∀ other, after.kind? other = before.kind? other
  parents : ∀ other, after.parent? other = before.parent? other
  order : after.order = before.order
  others : ∀ other, other ≠ id → after.style? other = before.style? other
  own : after.isVisible id = visible
  lists : ∀ parent,
    Stacking.without (after.children parent) id = Stacking.without (before.children parent) id
  sameChildren : ∀ parent, (before.children parent).Perm (after.children parent)
  elsewhere : ∀ parent, before.parent? id ≠ some parent →
    after.children parent = before.children parent

namespace Tree

theorem childPlaced_store (found : tree.node? id = some node) :
    ChildPlaced tree (tree.store id placement) id (node.placed placement).visible where
  kinds := (sameOutline_store tree id placement).kind?
  parents := (sameOutline_store tree id placement).parent?
  order := rfl
  others other different := by rw [style?_store, if_neg different]
  own := isVisible_of_node? (node?_store_self found)
  lists parent := by rw [(sameOutline_store tree id placement).children]
  sameChildren parent := by rw [(sameOutline_store tree id placement).children]
  elsewhere parent _ := (sameOutline_store tree id placement).children parent

theorem ChildPlaced.restackedUnder {visible : Bool} (placed : ChildPlaced tree after id visible)
    (forest : after.Forest) (link : after.parent? id = some parent) (directive : Directive) :
    ChildPlaced tree (after.restackedUnder parent id directive) id visible := by
  have live := (forest.isLive_of_child link).2
  have member := (forest.links.linked id parent).mp link
  have lists := fun other => children_restackedUnder after parent id other directive live
  exact
    { kinds := fun other => (kind?_restackedUnder ..).trans (placed.kinds other)
      parents := fun other => (parent?_restackedUnder ..).trans (placed.parents other)
      order := placed.order
      others := fun other different =>
        (style?_restackedUnder ..).trans (placed.others other different)
      own := by
        rw [isVisible_eq, kind?_restackedUnder, style?_restackedUnder, ← isVisible_eq]
        exact placed.own
      lists := fun other => by
        rw [lists, ← placed.lists other]
        split
        · exact Stacking.without_restackedChildren _ id directive
        · rfl
      sameChildren := fun other => by
        rw [lists]
        refine (placed.sameChildren other).trans ?_
        by_cases isParent : other = parent
        · rw [if_pos isParent]
          exact (Stacking.restackedChildren_perm (forest.links.distinct other) (isParent ▸ member)
            directive).symm
        · rw [if_neg isParent]
      elsewhere := fun other notParent => by
        have different : other ≠ parent := fun same => by
          rw [← placed.parents, link, same] at notParent
          exact notParent rfl
        rw [lists, if_neg different]
        exact placed.elsewhere other notParent }

theorem ChildPlaced.isVisible_of_ne {visible : Bool} (placed : ChildPlaced tree after id visible)
    {other : WindowId} (different : other ≠ id) : after.isVisible other = tree.isVisible other := by
  rw [isVisible_eq, isVisible_eq, placed.kinds, placed.others other different]

/-- While the window itself is not attached, its place among the siblings does not matter. -/
theorem ChildPlaced.filter_children {visible : Bool} (placed : ChildPlaced tree after id visible)
    (detached : shown id = false) (parent : WindowId) :
    (after.children parent).filter shown = (tree.children parent).filter shown := by
  have skips : ∀ windows : List WindowId,
      windows.filter shown = (Stacking.without windows id).filter shown := by
    intro windows
    rw [Stacking.without, List.filter_filter]
    apply List.filter_congr
    intro other _
    by_cases isId : other = id <;> simp [isId, detached]
  rw [skips (after.children parent), skips (tree.children parent), placed.lists]

end Tree

theorem Hosting.childPlaced {visible : Bool} (hosting : Hosting tree hosted)
    (placed : Tree.ChildPlaced tree after id visible) : Hosting after hosted where
  live other isHosted := by
    rw [Tree.isLive_eq_kind?, placed.kinds, ← Tree.isLive_eq_kind?]
    exact hosting.live other isHosted
  views other kind isKind := hosting.views other kind ((placed.kinds other).symm.trans isKind)
  above other parent link := hosting.above other parent ((placed.parents other).symm.trans link)

section ParentContainer

variable {visible reorders : Bool}

/-- A child that was hidden is attached at its new place. -/
theorem Mounted.childAppears (mounted : Mounted tree scene hosted tree.isVisible desktop)
    (afterForest : after.Forest) (link : tree.parent? id = some parent)
    (parentHosted : hosted parent = true) (placed : Tree.ChildPlaced tree after id true)
    (wasHidden : tree.isVisible id = false) :
    Mounted after (scene.performAll (after.attachCommands id)) hosted after.isVisible desktop := by
  have above : ∀ other, after.parent? id = some other → hosted other = true := by
    intro other otherLink
    rw [placed.parents, link] at otherLink
    exact Option.some.inj otherLink ▸ parentHosted
  refine ((mounted.retree (placed.filter_children wasHidden)).attach afterForest above).congr
    afterForest (fun _ => rfl) fun other _ _ => ?_
  by_cases isId : other = id
  · rw [isId, placed.own, beq_self_eq_true, Bool.true_or]
  · rw [placed.isVisible_of_ne isId, beq_eq_false_iff_ne.mpr isId, Bool.false_or]

/-- A child that is hidden now leaves the container. -/
theorem Mounted.childDisappears (mounted : Mounted tree scene hosted tree.isVisible desktop)
    (forest : tree.Forest) (afterForest : after.Forest)
    (placed : Tree.ChildPlaced tree after id false) :
    Mounted after (scene.performAll (after.detachCommands id)) hosted after.isVisible desktop := by
  have sameCommands : after.detachCommands id = tree.detachCommands id := by
    rw [Tree.detachCommands, Tree.detachCommands, placed.parents]
  have detached : (id != id && tree.isVisible id) = false := by simp
  rw [sameCommands]
  refine ((mounted.detach forest id).retree (placed.filter_children detached)).congr
    afterForest (fun _ => rfl) fun other _ _ => ?_
  by_cases isId : other = id
  · rw [isId, placed.own, bne_self_eq_false, Bool.false_and]
  · rw [placed.isVisible_of_ne isId, bne_iff_ne.mpr isId, Bool.true_and]

/-- A child that stays visible or stays hidden: the container is aligned if it is visible and may
have changed its place. -/
theorem Mounted.childStays (mounted : Mounted tree scene hosted tree.isVisible desktop)
    (forest : tree.Forest) (afterForest : after.Forest) (link : tree.parent? id = some parent)
    (parentHosted : hosted parent = true) (placed : Tree.ChildPlaced tree after id visible)
    (sameVisible : visible = tree.isVisible id)
    (keeps : reorders = false → ∀ other, after.children other = tree.children other) :
    Mounted after
      (scene.performAll (if visible && reorders then after.alignChildrenCommands parent else []))
      hosted after.isVisible desktop := by
  have restyled : Mounted tree scene hosted after.isVisible desktop := by
    apply mounted.congr forest (fun _ => rfl)
    intro other _ _
    by_cases isId : other = id
    · rw [isId, placed.own, sameVisible]
    · exact placed.isVisible_of_ne isId
  split
  · have parentLive := (afterForest.isLive_of_child ((placed.parents id).trans link)).2
    rw [Tree.alignChildrenCommands, if_pos parentLive]
    refine restyled.alignChildren parentHosted (afterForest.links.distinct parent)
      (placed.sameChildren parent) fun other different => placed.elsewhere other ?_
    rw [link]
    exact fun same => different (Option.some.inj same).symm
  · next notBoth =>
      apply restyled.retree
      intro other
      -- A hidden child may have changed its place without anyone seeing it.
      cases hidden : after.isVisible id with
      | false => exact placed.filter_children hidden other
      | true =>
          have isVisible : visible = true := placed.own.symm.trans hidden
          rw [keeps (by simpa [isVisible] using notBoth)]

/-- The container of the parent after a placement of a child. -/
theorem Mounted.childViewCommands (mounted : Mounted tree scene hosted tree.isVisible desktop)
    (forest : tree.Forest) (afterForest : after.Forest) (link : tree.parent? id = some parent)
    (parentHosted : hosted parent = true) (placed : Tree.ChildPlaced tree after id visible)
    (keeps : reorders = false → ∀ other, after.children other = tree.children other) :
    Mounted after
      (scene.performAll
        (after.childViewCommands parent id (tree.isVisible id) visible reorders))
      hosted after.isVisible desktop := by
  have stays := fun same =>
    mounted.childStays forest afterForest link parentHosted placed same keeps
  unfold Tree.childViewCommands
  cases wasVisible : tree.isVisible id with
  | false =>
      cases visible with
      | true => exact mounted.childAppears afterForest link parentHosted placed wasVisible
      | false => exact stays wasVisible.symm
  | true =>
      cases visible with
      | true => exact stays wasVisible.symm
      | false => exact mounted.childDisappears forest afterForest placed

end ParentContainer

theorem Shows.positionChild (shows : Shows tree scene) (forest : tree.Forest)
    (found : tree.node? id = some node) (isChild : node.kind = .child)
    (positioned : tree.positionChild scene.hasViews node placement = .ok change) :
    Shows change.tree (scene.performAll change.commands) := by
  obtain ⟨stacked, commands, notices, stacking, -, commandsAre, rfl⟩ :=
    Tree.positionChild_eq_ok positioned
  have own : node.id = id := forest.stored id node found
  subst own
  have kindIs : tree.kind? node.id = some .child := isChild ▸ Tree.kind?_of_node? found
  have sameOutline := Tree.sameOutline_store tree node.id placement
  have storedForest := forest.ofSameOutline sameOutline
  have storedPlaced : Tree.ChildPlaced tree (tree.store node.id placement) node.id
      (node.placed placement).visible := Tree.childPlaced_store found
  have placed : stacked.Forest ∧
      Tree.ChildPlaced tree stacked node.id (node.placed placement).visible ∧
      (placement.reorders = false → ∀ other, stacked.children other = tree.children other) := by
    rcases stacking with ⟨rfl, -⟩ | ⟨reorders, parent, link, rfl⟩
    · exact ⟨storedForest, storedPlaced, fun _ => sameOutline.children⟩
    · exact ⟨storedForest.restackedUnder link placement.directive,
        storedPlaced.restackedUnder storedForest link placement.directive,
        fun keeps => by simp [reorders] at keeps⟩
  obtain ⟨stackedForest, stackedPlaced, keeps⟩ := placed
  obtain ⟨whole, footprint, -, -, rfl⟩ :=
    commandsAre (shows.hosting.views node.id .child kindIs (by simp))
  have inStep : InStep stacked scene.desktop := by
    apply shows.inStep.congr stackedPlaced.order
    intro other member
    have different : other ≠ node.id := fun same =>
      forest.not_mem_order (fun flag => by simp [kindIs]) (same ▸ member)
    rw [Tree.holds_stackedVisible_eq, Tree.holds_stackedVisible_eq,
      stackedPlaced.isVisible_of_ne different, stackedPlaced.others other different]
  dsimp only
  rw [Scene.performAll_append, ← Tree.isVisible_of_node? found]
  refine Shows.of_mounted stackedForest
    (Mounted.quiet ?_ (Scene.quiet_layout node.id .client footprint))
    (shows.hosting.childPlaced stackedPlaced) inStep fun _ _ _ => rfl
  cases parentIs : node.parent with
  | none =>
      have parentless : tree.parent? node.id = none := (Tree.parent?_of_node? found).trans parentIs
      have restyled : Mounted tree scene scene.hasViews stacked.isVisible scene.desktop := by
        apply shows.mounted.congr forest (fun _ => rfl)
        intro other parent link
        have different : other ≠ node.id := fun same => by simp [same, parentless] at link
        exact stackedPlaced.isVisible_of_ne different
      apply restyled.retree
      intro other
      rw [stackedPlaced.elsewhere other (by simp [parentless])]
  | some parent =>
      have link : tree.parent? node.id = some parent := (Tree.parent?_of_node? found).trans parentIs
      have laidOut := shows.mounted.quiet (Scene.quiet_layout node.id .whole whole)
      exact laidOut.childViewCommands forest stackedForest link
        (shows.hosting.above node.id parent link) stackedPlaced keeps

theorem Shows.position (shows : Shows tree scene) (forest : tree.Forest)
    (positioned : tree.position scene.hasViews id placement = .ok change) :
    Shows change.tree (scene.performAll change.commands) := by
  obtain ⟨node, found, kinds⟩ := Tree.position_eq_ok positioned
  rcases kinds with ⟨isDesktop, rfl⟩ | ⟨⟨flag, isTopLevel⟩, placed⟩ | ⟨isChild, placed⟩
  · exact shows.positionDesktop forest found isDesktop
  · exact shows.positionTopLevel forest found isTopLevel placed
  · exact shows.positionChild forest found isChild placed

end WindowRelay
