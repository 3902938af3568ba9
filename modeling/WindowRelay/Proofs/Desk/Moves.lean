import WindowRelay.Proofs.Desk.Lifetime
import WindowRelay.Proofs.Tree.Reparent

/-!
Contract: the host keeps showing what the tree says while windows move under other parents.

Owns:
- rebuilt views: the visible children are attached again, and the desktop container is aligned;
- the three moves keep the agreement.
-/

namespace WindowRelay

variable {tree after : Tree} {scene : Scene} {hosted shown : WindowId → Bool}
  {desktop : List WindowId} {id parent : WindowId} {node : Node} {change : Change}

/-! ## Rebuilt views -/

theorem Mounted.attachAll (forest : tree.Forest) (isHosted : hosted id = true)
    {windows : List WindowId} (below : ∀ window ∈ windows, tree.parent? window = some id) :
    ∀ {scene : Scene} {shown : WindowId → Bool}, Mounted tree scene hosted shown desktop →
      Mounted tree (scene.performAll (windows.flatMap tree.attachCommands)) hosted
        (fun other => windows.contains other || shown other) desktop := by
  induction windows with
  | nil => exact fun mounted => mounted
  | cons window rest inductionHypothesis =>
      intro scene shown mounted
      have above : ∀ parent, tree.parent? window = some parent → hosted parent = true := by
        intro parent link
        have same := (below window (by simp)).symm.trans link
        exact Option.some.inj same ▸ isHosted
      rw [List.flatMap_cons, Scene.performAll_append]
      refine (inductionHypothesis (fun other member => below other (by simp [member]))
        (mounted.attach forest above)).congr forest (fun _ => rfl) fun other _ _ => ?_
      rw [List.contains_cons, Bool.or_assoc, Bool.or_left_comm]

/-- The last commands for a window whose views were rebuilt. -/
theorem Mounted.rebuilt (mounted : Mounted tree scene hosted shown desktop)
    (forest : tree.Forest) (isHosted : hosted id = true) :
    Mounted tree (scene.performAll (tree.rebuiltCommands id)) hosted
      (fun other => (tree.visibleChildren id).contains other || shown other)
      ((Scene.unmatched tree.stackedWindows desktop).foldl Stacking.raised desktop) := by
  have content : ∀ command ∈ tree.acceleratedCommands id, command.isQuiet = true := by
    unfold Tree.acceleratedCommands
    split
    · exact (Tree.quiet_accelerate tree id).commands
    · simp
  have below : ∀ window ∈ tree.visibleChildren id, tree.parent? window = some id :=
    fun window member => (forest.links.linked window id).mpr (List.mem_of_mem_filter member)
  have attached := Mounted.attachAll forest isHosted below (mounted.quiet content)
  rw [Tree.rebuiltCommands, Scene.performAll_append, Scene.performAll_append]
  exact attached.alignDesktop tree.stackedWindows

/-- Rebuilt views end in agreement, if all windows that stand elsewhere are attached as they are to
be, and no invisible child of the window is. -/
theorem Shows.of_rebuilt (mounted : Mounted after scene hosted shown desktop)
    (forest : after.Forest) (hosting : Hosting after hosted) (isHosted : hosted id = true)
    (distinct : desktop.Nodup) (sameWindows : desktop.Perm after.order)
    (elsewhere : ∀ other parent, after.parent? other = some parent → parent ≠ id →
      shown other = after.isVisible other)
    (below : ∀ other, after.parent? other = some id → shown other = true →
      after.isVisible other = true) :
    Shows after (scene.performAll (after.rebuiltCommands id)) := by
  refine Shows.of_mounted forest (mounted.rebuilt forest isHosted) hosting
    (InStep.aligned distinct sameWindows) fun other parent link => ?_
  by_cases isId : parent = id
  · have member : other ∈ after.children id := (forest.links.linked other id).mp (isId ▸ link)
    cases visibleIs : after.isVisible other with
    | true => simp [Tree.visibleChildren, member, visibleIs]
    | false =>
        have notShown : shown other = false := by
          by_contra isShown
          have visible := below other (isId ▸ link) (by simpa using isShown)
          simp [visibleIs] at visible
        simp [Tree.visibleChildren, visibleIs, notShown]
  · have notBelow : other ∉ after.visibleChildren id := fun member => by
      have otherLink := (forest.links.linked other id).mpr (List.mem_of_mem_filter member)
      exact isId (Option.some.inj (link.symm.trans otherLink))
    rw [elsewhere other parent link isId]
    simp [notBelow]

/-! ## Between tearing down and building up -/

namespace Tree.Rehomed

variable {before : Tree} {kind : Option Node.Kind} {style : Option Style}
  {target : Option WindowId}

theorem shownWithout_eq (rehomed : Rehomed before after id kind style target) {other : WindowId}
    (different : other ≠ id) (link : after.parent? other = some parent) (elsewhere : parent ≠ id) :
    before.shownWithout id before.isVisible other = after.isVisible other := by
  rw [rehomed.parent?_of_ne different] at link
  rw [rehomed.isVisible_of_ne different]
  simp [shownWithout, different, link, elsewhere]

theorem isVisible_of_shownWithout (rehomed : Rehomed before after id kind style target)
    {other : WindowId} (isShown : before.shownWithout id before.isVisible other = true) :
    after.isVisible other = true := by
  obtain ⟨different, rest⟩ := Bool.and_eq_true_iff.mp isShown
  rw [rehomed.isVisible_of_ne (by simpa using different)]
  exact (Bool.and_eq_true_iff.mp rest).2

end Tree.Rehomed

theorem Tree.shownWithout_self (tree : Tree) (id : WindowId) (shown : WindowId → Bool) :
    tree.shownWithout id shown id = false := by
  simp [shownWithout]

/-! ## The moves -/

theorem Shows.demote (shows : Shows tree scene) (forest : tree.Forest)
    (found : tree.node? id = some node) (isTopLevel : node.isTopLevel = true)
    (admits : tree.Admits id parent)
    (demoted : tree.demote scene.hasViews node parent = .ok change) :
    Shows change.tree (scene.performAll change.commands) := by
  obtain ⟨views, computed, rfl⟩ := Tree.demote_eq_ok demoted
  have own : node.id = id := forest.stored id node found
  subst own
  have rehomed := Tree.rehomed_demoted forest found isTopLevel admits
  generalize tree.demoted node.id parent = after at rehomed computed ⊢
  have afterForest := forest.ofRehomed rehomed
  have link : after.parent? node.id = some parent := (rehomed.parents node.id).trans (if_pos rfl)
  -- Views go while the old links hold, and come when the new ones do; in between the window and
  -- its children are attached nowhere, so that both trees describe the same containers.
  have torn := shows.mounted.tearDownTopLevel forest node.id
  have mounted := (torn.retree
    (rehomed.filter_children (tree.shownWithout_self node.id _))).ensureViews afterForest
      rehomed.isLive_self computed
  have notHosted : (node.id != node.id && scene.hasViews node.id) = false := by simp
  have isHosted := Tree.hosted_after_missing after
    (fun window => window != node.id && scene.hasViews window) node.id
  have parentHosted := Tree.parent_hosted_after_missing afterForest
    (fun window => window != node.id && scene.hasViews window) notHosted link
  refine Shows.announcing ?_
  dsimp only
  rw [Scene.performAll_append, Scene.performAll_append]
  refine Shows.of_rebuilt mounted afterForest ?_ isHosted
    (Stacking.nodup_without node.id shows.inStep.distinct) ?_ ?_ ?_
  · refine shows.hosting.rehome rehomed
      (fun other different isHosted => by simp [different, isHosted])
      (fun other => Tree.isLive_of_hosted_after_missing afterForest rehomed.isLive_self
        fun other wasHosted => ?_)
      (fun _ _ => isHosted) (fun target isTarget => Option.some.inj isTarget ▸ parentHosted)
      fun _ _ => isHosted
    obtain ⟨different, hadViews⟩ := Bool.and_eq_true_iff.mp wasHosted
    rw [rehomed.isLive_of_ne (by simpa using different)]
    exact shows.hosting.live other hadViews
  · rw [rehomed.order, if_neg (by simp)]
    exact shows.inStep.sameWindows.filter _
  · intro other above otherLink elsewhere
    by_cases isOwn : other = node.id
    · rw [notHosted, Bool.or_false] at isHosted
      rw [isOwn, isHosted, Bool.true_and, tree.shownWithout_self, Bool.or_false]
    · rw [rehomed.shownWithout_eq isOwn otherLink elsewhere]
      cases after.isVisible other <;> simp
  · intro other _ isShown
    rcases Bool.or_eq_true_iff.mp isShown with isNew | wasShown
    · exact (Bool.and_eq_true_iff.mp isNew).2
    · exact rehomed.isVisible_of_shownWithout wasShown

theorem Shows.promote (shows : Shows tree scene) (forest : tree.Forest)
    (found : tree.node? id = some node) (isChild : node.kind = .child)
    (promoted : tree.promote node = .ok change) :
    Shows change.tree (scene.performAll change.commands) := by
  obtain ⟨views, computed, rfl⟩ := Tree.promote_eq_ok promoted
  have own : node.id = id := forest.stored id node found
  subst own
  have rehomed := Tree.rehomed_promoted forest found isChild
  generalize tree.promoted node.id = after at rehomed ⊢
  have afterForest := forest.ofRehomed rehomed
  have torn := shows.mounted.tearDownChild forest node.id
  have mounted := (torn.retree
    (rehomed.filter_children (tree.shownWithout_self node.id _))).topLevelViews computed
  have sameRest := Stacking.without_of_notMem (Stacking.not_mem_without scene.desktop node.id)
  refine Shows.announcing ?_
  dsimp only
  rw [Scene.performAll_append, Scene.performAll_append]
  refine Shows.of_rebuilt mounted afterForest ?_ (by simp) ?_ ?_ ?_ ?_
  · refine shows.hosting.rehome rehomed
      (fun other different isHosted => by simp [different, isHosted])
      (fun other isHosted => ?_) (by simp) (by simp) (by simp)
    by_cases isOwn : other = node.id
    · exact isOwn ▸ rehomed.isLive_self
    · rw [rehomed.isLive_of_ne isOwn]
      exact shows.hosting.live other (by simpa [isOwn] using isHosted)
  · exact List.nodup_cons.mpr ⟨Stacking.not_mem_without _ _,
      Stacking.nodup_without _ (Stacking.nodup_without _ shows.inStep.distinct)⟩
  · rw [rehomed.order, if_pos rfl]
    dsimp only
    rw [sameRest]
    exact (shows.inStep.sameWindows.filter _).cons node.id
  · intro other above otherLink elsewhere
    exact rehomed.shownWithout_eq (rehomed.ne_of_parent otherLink) otherLink elsewhere
  · intro other _ isShown
    exact rehomed.isVisible_of_shownWithout isShown

/-- A visible child leaves its container; a hidden one is in none. -/
theorem Shows.detached (shows : Shows tree scene) (forest : tree.Forest)
    (found : tree.node? id = some node) :
    Mounted tree (scene.performAll (if node.visible then tree.detachCommands id else []))
      scene.hasViews (fun other => other != id && tree.isVisible other) scene.desktop := by
  split
  · exact shows.mounted.detach forest id
  · next hidden =>
      apply shows.mounted.congr forest (fun _ => rfl)
      intro other _ _
      by_cases isId : other = id
      · simp [isId, Tree.isVisible_of_node? found, hidden]
      · rw [bne_iff_ne.mpr isId, Bool.true_and]

/-- The window comes into its container if it is visible. -/
theorem Mounted.attachIfVisible (mounted : Mounted tree scene hosted shown desktop)
    (forest : tree.Forest) (visible : Bool)
    (above : ∀ parent, tree.parent? id = some parent → hosted parent = true) :
    Mounted tree (scene.performAll (if visible then tree.attachCommands id else [])) hosted
      (fun other => (other == id && visible) || shown other) desktop := by
  cases visible with
  | true =>
      apply (mounted.attach forest above).congr forest (fun _ => rfl)
      intro other _ _
      rw [Bool.and_true]
  | false =>
      apply mounted.congr forest (fun _ => rfl)
      intro other _ _
      rw [Bool.and_false, Bool.false_or]

theorem Shows.move (shows : Shows tree scene) (forest : tree.Forest)
    (found : tree.node? id = some node) (isChild : node.kind = .child)
    (admits : tree.Admits id parent)
    (moved : tree.move scene.hasViews node parent = .ok change) :
    Shows change.tree (scene.performAll change.commands) := by
  obtain ⟨higher, here, computed, hereIs, rfl⟩ := Tree.move_eq_ok moved
  have own : node.id = id := forest.stored id node found
  subst own
  have rehomed := Tree.rehomed_moved forest found isChild admits
  generalize tree.moved node.id parent = after at rehomed computed hereIs ⊢
  have afterForest := forest.ofRehomed rehomed
  have parentLive : after.isLive parent = true :=
    (rehomed.isLive_of_ne admits.different).trans admits.live
  have wasHosted : scene.hasViews node.id = true :=
    shows.hosting.views node.id .child (isChild ▸ Tree.kind?_of_node? found) (by simp)
  obtain ⟨whole, -, rfl⟩ := hereIs wasHosted
  have detached : (node.id != node.id && tree.isVisible node.id) = false := by simp
  have built := ((shows.detached forest found).retree
    (rehomed.filter_children detached)).ensureViews afterForest parentLive computed
  have parentHosted := Tree.hosted_after_missing after scene.hasViews parent
  have aboveHosted : ∀ target, after.parent? node.id = some target →
      ((after.missingViews scene.hasViews parent).contains target || scene.hasViews target) =
        true := by
    intro target link
    rw [rehomed.parents, if_pos rfl] at link
    exact Option.some.inj link ▸ parentHosted
  have laidOut := built.quiet (Scene.quiet_layout node.id .whole whole)
  have mounted := laidOut.attachIfVisible afterForest node.visible aboveHosted
  have visibleIs : after.isVisible node.id = node.visible := by
    rw [Tree.isVisible_eq, rehomed.kinds, rehomed.styles, if_pos rfl, if_pos rfl]
    simp [Node.visible, isChild]
  dsimp only
  rw [Scene.performAll_append, Scene.performAll_append]
  refine Shows.of_mounted afterForest mounted ?_ ?_ fun other target link => ?_
  · refine shows.hosting.rehome rehomed (fun other _ isHosted => by simp [isHosted])
      (fun other => Tree.isLive_of_hosted_after_missing afterForest parentLive
        fun other hadViews => ?_)
      (fun _ _ => by simp [wasHosted])
      (fun target isTarget => Option.some.inj isTarget ▸ parentHosted)
      fun _ _ => by simp [wasHosted]
    by_cases isOwn : other = node.id
    · exact isOwn ▸ rehomed.isLive_self
    · rw [rehomed.isLive_of_ne isOwn]
      exact shows.hosting.live other hadViews
  · have notListed : node.id ∉ tree.order := forest.not_mem_order fun flag => by
      simp [Tree.kind?_of_node? found, isChild]
    exact shows.inStep.rehomeUnlisted rehomed notListed (by simp)
  · by_cases isOwn : other = node.id
    · rw [isOwn, visibleIs]
      cases node.visible <;> simp
    · rw [rehomed.isVisible_of_ne isOwn, beq_eq_false_iff_ne.mpr isOwn, bne_iff_ne.mpr isOwn]
      cases tree.isVisible other <;> simp

theorem Shows.reparent (shows : Shows tree scene) (forest : tree.Forest) {scale : Binary32}
    (reparented : tree.reparent scene.hasViews id parent scale = .ok change) :
    Shows change.tree (scene.performAll change.commands) := by
  obtain ⟨node, first, found, notDesktop, rfl, moves⟩ := Tree.reparent_eq_ok reparented
  have moved : Shows first.tree (scene.performAll first.commands) := by
    rcases moves with rfl | ⟨hasParent, promoted⟩ | ⟨admits, isTopLevel, demoted⟩ |
      ⟨admits, notTopLevel, -, elsewhere⟩
    · exact shows
    · exact shows.promote forest found (Tree.isChild_of_parent forest found hasParent) promoted
    · exact shows.demote forest found isTopLevel admits demoted
    · have isChild := Tree.isChild_of_neither notDesktop notTopLevel
      exact shows.move forest found isChild admits elsewhere
  exact moved.withLook (Tree.sameLook_rescale first.tree id scale) (Scene.SameContainers.refl _)

end WindowRelay
