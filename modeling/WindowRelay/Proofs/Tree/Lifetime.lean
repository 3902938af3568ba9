import WindowRelay.Proofs.Outcome
import WindowRelay.Proofs.Tree.Forest

/-!
Contract: windows that come and go, seen as windows that go somewhere else.

Owns:
- what creation of the desktop window, of a top-level window and of a child does to the links;
- what the removal of a window without children does to them;
- tearing down a subtree one childless window after the other.
-/

namespace WindowRelay

namespace Tree

variable {tree : Tree} {id : WindowId} {change : Change}

/-! ## New windows -/

/-- A window that was not there before, without children, possibly under a live parent. -/
theorem rehomed_addNode (forest : tree.Forest) (node : Node) {after : Tree}
    (dead : ¬ tree.isLive node.id = true) (childless : node.children = [])
    (live : ∀ parent, node.parent = some parent → tree.isLive parent = true)
    (nodes : after.nodes = ((tree.awaiting node.parent node.id).addNode node).nodes)
    (order : after.order =
      if node.kind = .topLevel false then node.id :: tree.order else tree.order)
    (desktop : ∀ other, after.desktop = some other ↔
      if other = node.id then node.kind = .desktop else tree.desktop = some other)
    (anchored : node.kind ≠ .child → node.parent = none)
    (detached : node.kind = .child → node.parent = none → node.id = WindowId.messageOnly)
    (normal : node.kind ≠ .topLevel true) :
    Rehomed tree after node.id (some node.kind) (some node.style) node.parent := by
  have parentless := parent?_eq_none_of_not_isLive dead
  have without : Stacking.without tree.order node.id = tree.order :=
    Stacking.without_of_notMem (forest.not_mem_order_of_dead dead)
  exact
    { stored := ((forest.stored.awaiting node.parent node.id).addNode node).congr nodes
      kinds := fun other => by rw [kind?_congr nodes, kind?_addNode, kind?_awaiting]
      styles := fun other => by rw [style?_congr nodes, style?_addNode, style?_awaiting]
      parents := fun other => by rw [parent?_congr nodes, parent?_addNode, parent?_awaiting]
      lists := fun parent => by
        rw [forest.children_of_root parentless, children_congr nodes, children_addNode,
          children_awaiting live]
        by_cases isId : parent = node.id
        · have notOwnParent : node.parent ≠ some parent := fun link =>
            dead (isId ▸ live parent link)
          rw [if_pos isId, if_neg notOwnParent, isId, children_eq_nil_of_not_isLive dead]
          exact childless
        · rw [if_neg isId]
      order := by simp [order, without]
      desktop := by simpa using desktop
      above := fun parent isTarget => by
        refine ⟨tree.ancestors parent, forest.ascent_ancestors parent, fun member => dead ?_⟩
        rcases List.mem_cons.mp member with isParent | isAbove
        · exact isParent ▸ live parent isTarget
        · exact forest.isLive_of_mem_ascent (forest.ascent_ancestors parent) isAbove
      anchored := by simpa using anchored
      detached := by simpa using detached
      normal := by simpa using normal }

theorem createDesktop_eq_ok (created : tree.createDesktop id = .ok change) :
    tree.desktop = none ∧ ¬ tree.isLive id = true ∧
      change = { tree := { tree.addNode { id, kind := .desktop } with desktop := some id } } := by
  unfold createDesktop at created
  split at created
  · cases created
  · next noDesktop =>
      split at created
      · cases created
      · next dead =>
          cases created
          exact ⟨by simpa using noDesktop, dead, rfl⟩

theorem rehomed_createDesktop (forest : tree.Forest)
    (created : tree.createDesktop id = .ok change) :
    Rehomed tree change.tree id (some .desktop) (some Style.empty) none := by
  obtain ⟨noDesktop, dead, rfl⟩ := createDesktop_eq_ok created
  refine rehomed_addNode forest { id, kind := .desktop } dead rfl (by simp) rfl
    (by simp [addNode]) (fun other => ?_) (by simp) (by simp) (by simp)
  by_cases isId : other = id
  · simp [isId]
  · simp [isId, Ne.symm isId, noDesktop]

/-- The record of a window that has just been created. -/
abbrev newNode (id : WindowId) (kind : Node.Kind) (scale : Binary32) (process : UInt32)
    (parent : Option WindowId) : Node :=
  { id, kind, scale, process, parent }

theorem topLevelViews_eq_ok {node : Node} {commands : List Scene.Command}
    (computed : topLevelViews node = .ok commands) :
    ∃ whole client, node.wholePlace = .ok whole ∧
      node.clientLayout >>= Layout.padded = .ok client ∧ commands =
      [.createViews node.id, .createContent node.id .whole, .setFocusable node.id node.visible,
        .insert .desktop node.id 0, .layout node.id .whole whole,
        .layout node.id .client client] := by
  unfold topLevelViews at computed
  obtain ⟨whole, isWhole, rest⟩ := bind_eq_ok.mp computed
  obtain ⟨area, isArea, rest⟩ := bind_eq_ok.mp rest
  obtain ⟨client, isClient, rest⟩ := bind_eq_ok.mp rest
  exact ⟨whole, client, isWhole, bind_eq_ok.mpr ⟨area, isArea, isClient⟩,
    (pure_eq_ok.mp rest).symm⟩

theorem createTopLevel_eq_ok {scale : Binary32} {process : UInt32}
    (created : tree.createTopLevel id scale process = .ok change) :
    ∃ commands,
      topLevelViews (newNode id (.topLevel false) scale process none) = .ok commands ∧
      change =
        { tree := (tree.addNode (newNode id (.topLevel false) scale process none)).listTopLevel id
          commands } := by
  unfold createTopLevel at created
  obtain ⟨commands, views, rest⟩ := bind_eq_ok.mp created
  exact ⟨commands, liftOverflow_eq_ok.mp views, (pure_eq_ok.mp rest).symm⟩

private theorem desktop_after_newNode (forest : tree.Forest) (dead : ¬ tree.isLive id = true)
    {kind : Node.Kind} (notDesktop : kind ≠ .desktop) (other : WindowId) :
    tree.desktop = some other ↔
      if other = id then kind = .desktop else tree.desktop = some other := by
  by_cases isId : other = id
  · have notThere : tree.desktop ≠ some id :=
      forest.desktop_ne (by simp [kind?, node?_eq_none_of_not_isLive dead])
    simp [isId, notThere, notDesktop]
  · simp [isId]

theorem rehomed_createTopLevel (forest : tree.Forest) (dead : ¬ tree.isLive id = true)
    {scale : Binary32} {process : UInt32}
    (created : tree.createTopLevel id scale process = .ok change) :
    Rehomed tree change.tree id (some (.topLevel false)) (some Style.empty) none := by
  obtain ⟨commands, -, rfl⟩ := createTopLevel_eq_ok created
  refine rehomed_addNode forest (newNode id (.topLevel false) scale process none) dead rfl
    (by simp) rfl ?_ (fun other => ?_) (by simp) (by simp) (by simp)
  · simp [listTopLevel, addNode, Stacking.added, forest.not_mem_order_of_dead dead]
  · exact desktop_after_newNode forest dead (by simp) other

theorem createChild_eq_ok {hasViews : WindowId → Bool} {parent : Option WindowId}
    {scale : Binary32} {process : UInt32}
    (created : tree.createChild hasViews id parent scale process = .ok change) :
    (∀ target, parent = some target → tree.isLive target = true) ∧
      ∃ commands,
        ((tree.awaiting parent id).addNode (newNode id .child scale process parent)).ensureViews
          hasViews id = .ok commands ∧
        change =
          { tree := (tree.awaiting parent id).addNode (newNode id .child scale process parent)
            commands } := by
  unfold createChild at created
  cases parent with
  | none =>
      obtain ⟨linked, linking, rest⟩ := bind_eq_ok.mp created
      cases linking
      obtain ⟨commands, views, rest⟩ := bind_eq_ok.mp rest
      exact ⟨by simp, commands, liftOverflow_eq_ok.mp views, (pure_eq_ok.mp rest).symm⟩
  | some target =>
      dsimp only at created
      split at created
      · next live =>
          obtain ⟨linked, linking, rest⟩ := bind_eq_ok.mp created
          cases linking
          obtain ⟨commands, views, rest⟩ := bind_eq_ok.mp rest
          refine ⟨fun other isTarget => Option.some.inj isTarget ▸ live, commands,
            liftOverflow_eq_ok.mp views, (pure_eq_ok.mp rest).symm⟩
      · obtain ⟨linked, linking, -⟩ := bind_eq_ok.mp created
        exact absurd linking throw_ne_ok

theorem rehomed_createChild (forest : tree.Forest) (dead : ¬ tree.isLive id = true)
    {hasViews : WindowId → Bool} {parent : Option WindowId} {scale : Binary32} {process : UInt32}
    (detached : parent = none → id = WindowId.messageOnly)
    (created : tree.createChild hasViews id parent scale process = .ok change) :
    Rehomed tree change.tree id (some .child) (some Style.empty) parent := by
  obtain ⟨live, commands, -, rfl⟩ := createChild_eq_ok created
  refine rehomed_addNode forest (newNode id .child scale process parent) dead rfl live rfl
    ?_ (fun other => ?_) (by simp) (fun _ => detached) (by simp)
  · cases parent <;> simp [awaiting, addNode, appendChild, updateNode]
  · have sameDesktop : ((tree.awaiting parent id).addNode
        (newNode id .child scale process parent)).desktop = tree.desktop := by
      cases parent <;> rfl
    rw [sameDesktop]
    exact desktop_after_newNode forest dead (by simp) other

/-- Creation starts accelerated rendering of a live window, or adds a window and then perhaps
starts accelerated rendering of it. Without a parent every window but the message-only one becomes
a top-level window. -/
theorem create_cases {hasViews : WindowId → Bool} {parent : WindowId} {scale : Binary32}
    {accelerated : Bool} {process : UInt32}
    (created : tree.create hasViews id parent scale accelerated process = .ok change) :
    id ≠ WindowId.absent ∧
      ((tree.isLive id = true ∧ accelerated = true ∧ change = tree.accelerate id) ∨
        (¬ tree.isLive id = true ∧ ∃ first,
          change = (if accelerated then first.followedBy (·.accelerate id) else first) ∧
          ((parent = WindowId.absent ∧ id ≠ WindowId.messageOnly ∧
              tree.createTopLevel id scale process = .ok first) ∨
            ((parent = WindowId.absent → id = WindowId.messageOnly) ∧
              tree.createChild hasViews id (if parent = WindowId.absent then none else some parent)
                scale process = .ok first)))) := by
  unfold create at created
  split at created
  · cases created
  · next named =>
      refine ⟨named, ?_⟩
      split at created
      · next live =>
          split at created
          · next isAccelerated =>
              cases created
              exact .inl ⟨live, isAccelerated, rfl⟩
          · cases created
      · next dead =>
          dsimp only at created
          split at created
          · next topLevel =>
              obtain ⟨first, making, rest⟩ := bind_eq_ok.mp created
              obtain ⟨isAbsent, ordinary⟩ := Bool.and_eq_true_iff.mp topLevel
              exact .inr ⟨dead, first, (pure_eq_ok.mp rest).symm,
                .inl ⟨of_decide_eq_true isAbsent, bne_iff_ne.mp ordinary, making⟩⟩
          · next notTop =>
              obtain ⟨first, making, rest⟩ := bind_eq_ok.mp created
              refine .inr ⟨dead, first, (pure_eq_ok.mp rest).symm, .inr ⟨fun isAbsent => ?_, making⟩⟩
              simpa [isAbsent] using notTop

/-- What follows from that for the links. -/
theorem create_eq_ok {hasViews : WindowId → Bool} {parent : WindowId} {scale : Binary32}
    {accelerated : Bool} {process : UInt32}
    (created : tree.create hasViews id parent scale accelerated process = .ok change) :
    (tree.isLive id = true ∧ accelerated = true ∧ change = tree.accelerate id) ∨
      (¬ tree.isLive id = true ∧ ∃ first,
        change = (if accelerated then first.followedBy (·.accelerate id) else first) ∧
        (tree.createTopLevel id scale process = .ok first ∨
          ∃ target, (target = none → id = WindowId.messageOnly) ∧
            tree.createChild hasViews id target scale process = .ok first)) := by
  rcases (create_cases created).2 with again | ⟨dead, first, rfl, ⟨-, -, topLevel⟩ | ⟨home, child⟩⟩
  · exact .inl again
  · exact .inr ⟨dead, first, rfl, .inl topLevel⟩
  · refine .inr ⟨dead, first, rfl, .inr ⟨_, fun noTarget => ?_, child⟩⟩
    by_cases isAbsent : parent = WindowId.absent
    · exact home isAbsent
    · rw [if_neg isAbsent] at noTarget
      cases noTarget

end Tree

end WindowRelay
