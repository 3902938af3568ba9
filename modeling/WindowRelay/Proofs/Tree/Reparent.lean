import WindowRelay.Proofs.Outcome
import WindowRelay.Proofs.Tree.Forest

/-!
Contract: windows that move under another parent, seen as windows that go somewhere else.

Owns:
- what an accepted move has checked;
- the links after each of the three moves;
- the form of the change that a successful move makes.
-/

namespace WindowRelay

namespace Tree

variable {tree : Tree} {id parent : WindowId} {node : Node} {change : Change}

/-! ## Accepted moves -/

/-- A parent that is live and stands neither at nor below the window that moves. -/
structure Admits (tree : Tree) (id parent : WindowId) : Prop where
  different : parent ≠ id
  live : tree.isLive parent = true
  notBelow : tree.isBelow parent id = false

theorem moveRefusal_eq_none (accepted : tree.moveRefusal id parent = none) :
    ∃ node, tree.node? id = some node ∧ node.kind ≠ .desktop ∧
      (parent = WindowId.absent ∨ tree.Admits id parent) := by
  unfold moveRefusal at accepted
  cases found : tree.node? id with
  | none => simp [found] at accepted
  | some node =>
      simp only [found] at accepted
      split at accepted
      · cases accepted
      · next notDesktop =>
          refine ⟨node, rfl, notDesktop, ?_⟩
          split at accepted
          · next isAbsent => exact .inl isAbsent
          · split at accepted
            · cases accepted
            · next different =>
                split at accepted
                · cases accepted
                · next live =>
                    split at accepted
                    · cases accepted
                    · next notBelow =>
                        exact .inr ⟨different, by simpa using live, by simpa using notBelow⟩

theorem moveRefusal_of_admits (found : tree.node? id = some node)
    (notDesktop : node.kind ≠ .desktop) (notAbsent : parent ≠ WindowId.absent)
    (admits : tree.Admits id parent) : tree.moveRefusal id parent = none := by
  unfold moveRefusal
  simp [found, notDesktop, notAbsent, admits.different, admits.live, admits.notBelow]

/-- A top-level window can be the parent of every other window. -/
theorem admits_of_topLevel (forest : tree.Forest) {flag : Bool} (different : parent ≠ id)
    (isTopLevel : tree.kind? parent = some (.topLevel flag)) : tree.Admits id parent where
  different := different
  live := by rw [isLive_eq_kind?, isTopLevel]; rfl
  notBelow := by
    have parentless : tree.parent? parent = none :=
      forest.anchored parent _ isTopLevel (by simp)
    simp [isBelow, forest.ancestors_of_root parentless]

theorem Admits.above (forest : tree.Forest) (admits : tree.Admits id parent) :
    ∃ chain, Ascent tree.parent? parent chain ∧ id ∉ parent :: chain := by
  refine ⟨tree.ancestors parent, forest.ascent_ancestors parent, fun member => ?_⟩
  rcases List.mem_cons.mp member with isParent | isAbove
  · exact admits.different isParent.symm
  · have below : tree.isBelow parent id = true := List.contains_iff_mem.mpr isAbove
    rw [admits.notBelow] at below
    cases below

/-! ## Links after a move -/

/-- Taking a window out of the list of its parent takes it out of every list. -/
theorem Forest.children_unlink (forest : tree.Forest) (id other : WindowId) :
    (tree.unlink (tree.parent? id) id).children other =
      Stacking.without (tree.children other) id := by
  rw [Tree.children_unlink]
  by_cases isParent : tree.parent? id = some other
  · rw [if_pos isParent]
  · have notThere : id ∉ tree.children other := fun member =>
      isParent ((forest.links.linked id other).mpr member)
    rw [if_neg isParent, Stacking.without_of_notMem notThere]

/-- Taking a window out of the list of its parent leaves its own node alone. -/
theorem node?_unlink_self (forest : tree.Forest) (found : tree.node? id = some node) :
    (tree.unlink (tree.parent? id) id).node? id = some node := by
  have notOwnParent : tree.parent? id ≠ some id := fun link => by
    have distinct := (Ascent.step link (forest.ascent_ancestors id)).nodup
    simp at distinct
  rw [node?_unlink, if_neg notOwnParent, found]

/-- The kind of a window that has just moved under a parent, or to the top level. -/
def kindUnder : Option WindowId → Node.Kind
  | some _ => .child
  | none => .topLevel false

/-- A change of kind and parent link, and of nothing else that is asked about. -/
structure Relinks (change : Node → Node) (node : Node) (target : Option WindowId) : Prop where
  keepsId : ∀ other, (change other).id = other.id
  keepsChildren : ∀ other, (change other).children = other.children
  keepsStyle : (change node).style = node.style
  kind : (change node).kind = kindUnder target
  parent : (change node).parent = target

/-- A live window leaves its parent, changes its kind and its parent link, and is listed by the
new parent if there is one. -/
theorem rehomed_relinked (forest : tree.Forest) (found : tree.node? id = some node)
    (notDesktop : node.kind ≠ .desktop) {update : Node → Node} {target : Option WindowId}
    (relinks : Relinks update node target)
    (admits : ∀ parent, target = some parent → tree.Admits id parent) {after : Tree}
    (nodes : after.nodes =
      (((tree.unlink (tree.parent? id) id).updateNode id update).awaiting target id).nodes)
    (order : after.order =
      if target.isSome then Stacking.without tree.order id
      else id :: Stacking.without tree.order id)
    (desktop : after.desktop = tree.desktop) :
    Rehomed tree after id (some (kindUnder target)) (some node.style) target := by
  have foundUnlinked := node?_unlink_self forest found
  have live : ∀ parent, target = some parent →
      ((tree.unlink (tree.parent? id) id).updateNode id update).isLive parent = true := by
    intro parent isTarget
    have liveBefore := (admits parent isTarget).live
    rw [isLive_eq_kind?] at liveBefore
    rw [isLive_eq_kind?, kind?_updateNode, if_neg (admits parent isTarget).different,
      kind?_unlink]
    exact liveBefore
  have notListed : tree.desktop ≠ some id :=
    forest.desktop_ne (by simp [kind?_of_node? found, notDesktop])
  exact
    { stored := (((forest.stored.unlink (tree.parent? id) id).updateNode id
        relinks.keepsId).awaiting target id).congr nodes
      kinds := fun other => by
        rw [kind?_congr nodes, kind?_awaiting, kind?_updateNode, kind?_unlink]
        by_cases isId : other = id
        · simp [isId, foundUnlinked, relinks.kind]
        · simp [isId]
      styles := fun other => by
        rw [style?_congr nodes, style?_awaiting, style?_updateNode, style?_unlink]
        by_cases isId : other = id
        · simp [isId, foundUnlinked, relinks.keepsStyle]
        · simp [isId]
      parents := fun other => by
        rw [parent?_congr nodes, parent?_awaiting, parent?_updateNode, parent?_unlink]
        by_cases isId : other = id
        · simp [isId, foundUnlinked, relinks.parent]
        · simp [isId]
      lists := fun other => by
        rw [children_congr nodes, children_awaiting live,
          children_updateNode _ _ _ relinks.keepsChildren, forest.children_unlink]
      order := by cases target <;> simpa [kindUnder] using order
      desktop := fun other => by
        rw [desktop]
        by_cases isId : other = id
        · cases target <;> simp [isId, notListed, kindUnder]
        · simp [isId]
      above := fun parent isTarget => (admits parent isTarget).above forest
      anchored := by cases target <;> simp [kindUnder]
      detached := by cases target <;> simp [kindUnder]
      normal := by cases target <;> simp [kindUnder] }

theorem rehomed_demoted (forest : tree.Forest) (found : tree.node? id = some node)
    (isTopLevel : node.isTopLevel = true) (admits : tree.Admits id parent) :
    Rehomed tree (tree.demoted id parent) id (some .child) (some node.style) (some parent) := by
  have notChild : node.kind ≠ .child := fun same => by simp [Node.isTopLevel, same] at isTopLevel
  have notDesktop : node.kind ≠ .desktop := fun same => by
    simp [Node.isTopLevel, same] at isTopLevel
  have parentless : tree.parent? id = none :=
    forest.anchored id node.kind (kind?_of_node? found) notChild
  have relinks : Relinks
      (fun node => { node with kind := .child, parent := some parent, surfaces := {} })
      node (some parent) :=
    ⟨fun _ => rfl, fun _ => rfl, rfl, rfl, rfl⟩
  refine rehomed_relinked forest found notDesktop relinks
    (fun target isTarget => Option.some.inj isTarget ▸ admits) ?_ rfl rfl
  rw [parentless]
  rfl

theorem isChild_of_parent (forest : tree.Forest) (found : tree.node? id = some node)
    (hasParent : node.parent.isSome = true) : node.kind = .child := by
  by_contra notChild
  have parentless := forest.anchored id node.kind (kind?_of_node? found) notChild
  rw [parent?_of_node? found] at parentless
  rw [parentless] at hasParent
  cases hasParent

theorem isChild_of_neither (notDesktop : node.kind ≠ .desktop)
    (notTopLevel : node.isTopLevel = false) : node.kind = .child := by
  cases kindIs : node.kind with
  | child => rfl
  | desktop => exact absurd kindIs notDesktop
  | topLevel flag => simp [Node.isTopLevel, kindIs] at notTopLevel

private theorem not_mem_order_of_child (forest : tree.Forest) (found : tree.node? id = some node)
    (isChild : node.kind = .child) : id ∉ tree.order :=
  forest.not_mem_order fun flag => by simp [kind?, found, isChild]

private theorem order_unlink (tree : Tree) (parent : Option WindowId) (id : WindowId) :
    (tree.unlink parent id).order = tree.order := by
  cases parent <;> rfl

private theorem desktop_unlink (tree : Tree) (parent : Option WindowId) (id : WindowId) :
    (tree.unlink parent id).desktop = tree.desktop := by
  cases parent <;> rfl

theorem rehomed_promoted (forest : tree.Forest) (found : tree.node? id = some node)
    (isChild : node.kind = .child) :
    Rehomed tree (tree.promoted id) id (some (.topLevel false)) (some node.style) none := by
  have notListed := not_mem_order_of_child forest found isChild
  have relinks : Relinks
      (fun node => { node with kind := .topLevel false, parent := none, surfaces := {} })
      node none :=
    ⟨fun _ => rfl, fun _ => rfl, rfl, rfl, rfl⟩
  refine rehomed_relinked forest found (by simp [isChild]) relinks (by simp) rfl ?_ ?_
  · show Stacking.added (tree.unlink (tree.parent? id) id).order id = _
    rw [order_unlink, Stacking.without_of_notMem notListed]
    simp [Stacking.added, notListed]
  · exact desktop_unlink tree (tree.parent? id) id

theorem rehomed_moved (forest : tree.Forest) (found : tree.node? id = some node)
    (isChild : node.kind = .child) (admits : tree.Admits id parent) :
    Rehomed tree (tree.moved id parent) id (some .child) (some node.style) (some parent) := by
  have notListed := not_mem_order_of_child forest found isChild
  have relinks : Relinks (fun node => { node with parent := some parent }) node (some parent) :=
    ⟨fun _ => rfl, fun _ => rfl, rfl, isChild, rfl⟩
  refine rehomed_relinked forest found (by simp [isChild]) relinks
    (fun target isTarget => Option.some.inj isTarget ▸ admits) rfl ?_ ?_
  · show (tree.unlink (tree.parent? id) id).order = _
    rw [order_unlink, Stacking.without_of_notMem notListed]
    rfl
  · exact desktop_unlink tree (tree.parent? id) id

/-! ## The changes -/

theorem demote_eq_ok {hasViews : WindowId → Bool}
    (demoted : tree.demote hasViews node parent = .ok change) :
    ∃ views,
      (tree.demoted node.id parent).ensureViews (fun window => window != node.id && hasViews window)
        node.id = .ok views ∧
      change = Change.announcing
        { tree := tree.demoted node.id parent
          commands := [.remove .desktop node.id, .destroyViews node.id] ++ views ++
            (tree.demoted node.id parent).rebuiltCommands node.id
          calls := releaseCalls node } := by
  unfold demote at demoted
  obtain ⟨views, computed, rest⟩ := bind_eq_ok.mp demoted
  exact ⟨views, Interruption.after_eq_ok_iff.mp (liftInterruption_eq_ok.mp computed),
    (pure_eq_ok.mp rest).symm⟩

theorem promote_eq_ok (promoted : tree.promote node = .ok change) :
    ∃ views,
      topLevelViews { node with kind := .topLevel false, parent := none, surfaces := {} } =
        .ok views ∧
      change = Change.announcing
        { tree := tree.promoted node.id
          commands := tree.detachCommands node.id ++ [.destroyViews node.id] ++ views ++
            (tree.promoted node.id).rebuiltCommands node.id
          calls := releaseCalls node } := by
  unfold promote at promoted
  obtain ⟨views, computed, rest⟩ := bind_eq_ok.mp promoted
  exact ⟨views, Interruption.after_eq_ok_iff.mp (liftInterruption_eq_ok.mp computed),
    (pure_eq_ok.mp rest).symm⟩

/-- The last commands of a move: a window with views is attached, another one gets its views. -/
theorem move_eq_ok {hasViews : WindowId → Bool}
    (moved : tree.move hasViews node parent = .ok change) :
    ∃ above here,
      (tree.moved node.id parent).ensureViews hasViews parent = .ok above ∧
      (hasViews node.id = true → ∃ whole, Layout.padded node.visibleRect = .ok whole ∧
        here = .layout node.id .whole whole ::
          if node.visible then (tree.moved node.id parent).attachCommands node.id else []) ∧
      change =
        { tree := tree.moved node.id parent
          commands := (if node.visible then tree.detachCommands node.id else []) ++ above ++
            here } := by
  unfold move at moved
  obtain ⟨above, computed, rest⟩ := bind_eq_ok.mp moved
  dsimp only at rest
  split at rest
  · obtain ⟨whole, isWhole, rest⟩ := bind_eq_ok.mp rest
    exact ⟨above, _, liftOverflow_eq_ok.mp computed,
      fun _ => ⟨whole, liftOverflow_eq_ok.mp isWhole, rfl⟩, (pure_eq_ok.mp rest).symm⟩
  · next noViews =>
      obtain ⟨here, -, rest⟩ := bind_eq_ok.mp rest
      exact ⟨above, here, liftOverflow_eq_ok.mp computed, fun views => absurd views noViews,
        (pure_eq_ok.mp rest).symm⟩

/-- A top-level window moves under an admitted parent. -/
theorem reparent_under {hasViews : WindowId → Bool} {scale : Binary32}
    (found : tree.node? id = some node) (isTopLevel : node.isTopLevel = true)
    (notAbsent : parent ≠ WindowId.absent) (admits : tree.Admits id parent) :
    tree.reparent hasViews id parent scale = (do
      let first ← tree.demote hasViews node parent
      pure { first with tree := first.tree.rescale id scale }) := by
  have notDesktop : node.kind ≠ .desktop := fun same => by
    simp [Node.isTopLevel, same] at isTopLevel
  unfold reparent
  simp only [moveRefusal_of_admits found notDesktop notAbsent admits, found, if_neg notAbsent,
    isTopLevel, if_true]

/-- A child moves to the top level. -/
theorem reparent_back {hasViews : WindowId → Bool} {scale : Binary32}
    (found : tree.node? id = some node) (isChild : node.kind = .child)
    (hasParent : node.parent.isSome = true) :
    tree.reparent hasViews id WindowId.absent scale = (do
      let first ← tree.promote node
      pure { first with tree := first.tree.rescale id scale }) := by
  have accepted : tree.moveRefusal id WindowId.absent = none := by
    unfold moveRefusal
    simp [found, isChild]
  unfold reparent
  simp only [accepted, found, hasParent, if_true]

/-- A successful move keeps the place of the window, or makes one of the three moves: to the top
level if no parent is named, and under the named parent otherwise. The subtree gets its scale in
any case. -/
theorem reparent_cases {hasViews : WindowId → Bool} {scale : Binary32}
    (reparented : tree.reparent hasViews id parent scale = .ok change) :
    ∃ node first, tree.node? id = some node ∧ node.kind ≠ .desktop ∧
      change = { first with tree := first.tree.rescale id scale } ∧
      ((parent = WindowId.absent ∧
          ((node.parent = none ∧ first = { tree }) ∨
            (node.parent.isSome = true ∧ tree.promote node = .ok first))) ∨
        (parent ≠ WindowId.absent ∧ tree.Admits id parent ∧
          ((node.isTopLevel = true ∧ tree.demote hasViews node parent = .ok first) ∨
            (node.isTopLevel = false ∧ node.parent = some parent ∧ first = { tree }) ∨
            (node.isTopLevel = false ∧ node.parent ≠ some parent ∧
              tree.move hasViews node parent = .ok first)))) := by
  unfold reparent at reparented
  cases refusal : tree.moveRefusal id parent with
  | some error =>
      simp only [refusal] at reparented
      obtain ⟨_, thrown, -⟩ := bind_eq_ok.mp reparented
      exact absurd thrown throw_ne_ok
  | none =>
      obtain ⟨node, found, notDesktop, target⟩ := moveRefusal_eq_none refusal
      simp only [refusal, found] at reparented
      split at reparented
      · next isAbsent =>
          split at reparented
          · next hasParent =>
              obtain ⟨first, promoted, rest⟩ := bind_eq_ok.mp reparented
              exact ⟨node, first, found, notDesktop, (pure_eq_ok.mp rest).symm,
                .inl ⟨isAbsent, .inr ⟨hasParent, promoted⟩⟩⟩
          · next parentless =>
              obtain ⟨first, stays, rest⟩ := bind_eq_ok.mp reparented
              exact ⟨node, first, found, notDesktop, (pure_eq_ok.mp rest).symm,
                .inl ⟨isAbsent, .inl ⟨by simpa using parentless, (pure_eq_ok.mp stays).symm⟩⟩⟩
      · next notAbsent =>
          have admits := target.resolve_left notAbsent
          split at reparented
          · next isTopLevel =>
              obtain ⟨first, demoted, rest⟩ := bind_eq_ok.mp reparented
              exact ⟨node, first, found, notDesktop, (pure_eq_ok.mp rest).symm,
                .inr ⟨notAbsent, admits, .inl ⟨isTopLevel, demoted⟩⟩⟩
          · next otherKind =>
              have notTopLevel : node.isTopLevel = false := by simpa using otherKind
              split at reparented
              · next sameParent =>
                  obtain ⟨first, stays, rest⟩ := bind_eq_ok.mp reparented
                  exact ⟨node, first, found, notDesktop, (pure_eq_ok.mp rest).symm,
                    .inr ⟨notAbsent, admits,
                      .inr (.inl ⟨notTopLevel, sameParent, (pure_eq_ok.mp stays).symm⟩)⟩⟩
              · next otherParent =>
                  obtain ⟨first, moved, rest⟩ := bind_eq_ok.mp reparented
                  exact ⟨node, first, found, notDesktop, (pure_eq_ok.mp rest).symm,
                    .inr ⟨notAbsent, admits, .inr (.inr ⟨notTopLevel, otherParent, moved⟩)⟩⟩

/-- The moves alone, without the parent that was named. -/
theorem reparent_eq_ok {hasViews : WindowId → Bool} {scale : Binary32}
    (reparented : tree.reparent hasViews id parent scale = .ok change) :
    ∃ node first, tree.node? id = some node ∧ node.kind ≠ .desktop ∧
      change = { first with tree := first.tree.rescale id scale } ∧
      (first = { tree } ∨
        (node.parent.isSome = true ∧ tree.promote node = .ok first) ∨
        (tree.Admits id parent ∧ node.isTopLevel = true ∧
          tree.demote hasViews node parent = .ok first) ∨
        (tree.Admits id parent ∧ node.isTopLevel = false ∧ node.parent ≠ some parent ∧
          tree.move hasViews node parent = .ok first)) := by
  obtain ⟨node, first, found, notDesktop, changeIs, moves⟩ := reparent_cases reparented
  refine ⟨node, first, found, notDesktop, changeIs, ?_⟩
  rcases moves with ⟨-, ⟨-, stays⟩ | promoted⟩ |
    ⟨-, admits, ⟨isTopLevel, demoted⟩ | ⟨-, -, stays⟩ | ⟨notTopLevel, otherParent, moved⟩⟩
  · exact .inl stays
  · exact .inr (.inl promoted)
  · exact .inr (.inr (.inl ⟨admits, isTopLevel, demoted⟩))
  · exact .inl stays
  · exact .inr (.inr (.inr ⟨admits, notTopLevel, otherParent, moved⟩))

end Tree

end WindowRelay
