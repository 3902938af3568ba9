import WindowRelay.Proofs.Desk.Agreement
import WindowRelay.Proofs.Tree.Teardown

/-!
Contract: the host keeps showing what the tree says while windows come and go.

Owns:
- a new window is on show nowhere, because its style is empty;
- the removal of a window without children takes it out of every container;
- creation and destruction keep the agreement.
-/

namespace WindowRelay

variable {tree : Tree} {scene : Scene} {hosted shown : WindowId → Bool} {desktop : List WindowId}
  {id : WindowId} {change : Change}

/-! ## New windows -/

namespace Tree

theorem isVisible_of_not_isLive (dead : ¬ tree.isLive id = true) : tree.isVisible id = false := by
  simp [isVisible, holds, node?_eq_none_of_not_isLive dead]

theorem isStacked_of_not_isVisible (hidden : tree.isVisible id = false) :
    tree.holds Node.stackedVisible id = false := by
  rw [holds_stackedVisible_eq, hidden, Bool.false_and]

end Tree

/-- The views of a top-level window: a slot at the back of the desktop container. -/
theorem Mounted.topLevelViews (mounted : Mounted tree scene hosted shown desktop) {node : Node}
    {commands : List Scene.Command} (computed : Tree.topLevelViews node = .ok commands) :
    Mounted tree (scene.performAll commands) (fun other => other == node.id || hosted other) shown
      (node.id :: Stacking.without desktop node.id) := by
  obtain ⟨whole, client, -, -, rfl⟩ := Tree.topLevelViews_eq_ok computed
  have quietBefore : ∀ command ∈ ([.createContent node.id .whole,
      .setFocusable node.id node.visible] : List Scene.Command), command.isQuiet = true := by
    simp
  have quietAfter : ∀ command ∈ ([.layout node.id .whole whole,
      .layout node.id .client client] : List Scene.Command), command.isQuiet = true := by
    simp
  have prepared := (mounted.createViews node.id).quiet quietBefore
  exact (prepared.insertIntoDesktop node.id).quiet quietAfter

theorem Hosting.not_hosted (hosting : Hosting tree hosted) (dead : ¬ tree.isLive id = true) :
    hosted id = false := by
  by_contra isHosted
  exact dead (hosting.live id (by simpa using isHosted))

theorem Shows.createDesktop (shows : Shows tree scene) (forest : tree.Forest)
    (created : tree.createDesktop id = .ok change) :
    Shows change.tree (scene.performAll change.commands) := by
  have rehomed := Tree.rehomed_createDesktop forest created
  obtain ⟨-, dead, rfl⟩ := Tree.createDesktop_eq_ok created
  have notVisible := Tree.isVisible_of_not_isLive dead
  have notHosted := shows.hosting.not_hosted dead
  refine Shows.of_mounted (forest.ofRehomed rehomed)
    (shows.mounted.retree (rehomed.filter_children notVisible)) ?_ ?_ fun other parent link => ?_
  · refine shows.hosting.rehome rehomed (fun _ _ isHosted => isHosted) (fun other isHosted => ?_)
      (fun _ notDesktop => absurd rfl notDesktop) (by simp) (fun child link => ?_)
    · have different : other ≠ id := fun same => by simp [same, notHosted] at isHosted
      exact (rehomed.isLive_of_ne different).trans (shows.hosting.live other isHosted)
    · exact absurd (forest.isLive_of_child link).2 dead
  · exact shows.inStep.rehomeUnlisted rehomed (forest.not_mem_order_of_dead dead) (by simp)
  · exact (rehomed.isVisible_of_ne (rehomed.ne_of_parent link)).symm

theorem Shows.createTopLevel (shows : Shows tree scene) (forest : tree.Forest)
    (dead : ¬ tree.isLive id = true) {scale : Binary32} {process : UInt32}
    (created : tree.createTopLevel id scale process = .ok change) :
    Shows change.tree (scene.performAll change.commands) := by
  have rehomed := Tree.rehomed_createTopLevel forest dead created
  obtain ⟨commands, views, rfl⟩ := Tree.createTopLevel_eq_ok created
  have notVisible := Tree.isVisible_of_not_isLive dead
  have mounted := (shows.mounted.retree (rehomed.filter_children notVisible)).topLevelViews views
  refine Shows.of_mounted (forest.ofRehomed rehomed) mounted ?_ ?_ fun other parent link => ?_
  · refine shows.hosting.rehome rehomed (fun _ _ isHosted => by simp [isHosted])
      (fun other isHosted => ?_) (by simp) (by simp) (by simp)
    by_cases isId : other = id
    · exact isId ▸ rehomed.isLive_self
    · rw [rehomed.isLive_of_ne isId]
      exact shows.hosting.live other (by simpa [isId] using isHosted)
  · have hidden := rehomed.isVisible_of_emptyStyle (by simp)
    refine shows.inStep.atBack ?_ (Tree.isStacked_of_not_isVisible hidden)
      fun other different => rehomed.isStacked_of_ne different
    rw [rehomed.order, if_pos rfl]
  · exact (rehomed.isVisible_of_ne (rehomed.ne_of_parent link)).symm

theorem Shows.createChild (shows : Shows tree scene) (forest : tree.Forest)
    (dead : ¬ tree.isLive id = true) {target : Option WindowId} {scale : Binary32}
    {process : UInt32} (detached : target = none → id = WindowId.messageOnly)
    (created : tree.createChild scene.hasViews id target scale process = .ok change) :
    Shows change.tree (scene.performAll change.commands) := by
  have rehomed := Tree.rehomed_createChild forest dead detached created
  obtain ⟨-, commands, views, rfl⟩ := Tree.createChild_eq_ok created
  dsimp only at rehomed ⊢
  generalize (tree.awaiting target id).addNode (Tree.newNode id .child scale process target) = after
    at rehomed views ⊢
  have afterForest := forest.ofRehomed rehomed
  have notVisible := Tree.isVisible_of_not_isLive dead
  have notHosted := shows.hosting.not_hosted dead
  have live := rehomed.isLive_self
  have mounted := (shows.mounted.retree (rehomed.filter_children notVisible)).ensureViews
    afterForest live views
  refine Shows.of_mounted afterForest mounted ?_ ?_ fun other parent link => ?_
  · refine shows.hosting.rehome rehomed (fun _ _ isHosted => by simp [isHosted])
      (fun other => Tree.isLive_of_hosted_after_missing afterForest live fun other wasHosted => ?_)
      (fun _ _ => Tree.hosted_after_missing after scene.hasViews id) (fun parent isTarget => ?_)
      fun child link => absurd (forest.isLive_of_child link).2 dead
    · have different : other ≠ id := fun same => by simp [same, notHosted] at wasHosted
      rw [rehomed.isLive_of_ne different]
      exact shows.hosting.live other wasHosted
    · have link : after.parent? id = some parent := by rw [rehomed.parents, if_pos rfl, isTarget]
      exact Tree.parent_hosted_after_missing afterForest scene.hasViews notHosted link
  · exact shows.inStep.rehomeUnlisted rehomed (forest.not_mem_order_of_dead dead) (by simp)
  · by_cases isId : other = id
    · have hidden := rehomed.isVisible_of_emptyStyle (by simp)
      simp [isId, hidden, notVisible]
    · rw [rehomed.isVisible_of_ne isId]
      cases tree.isVisible other <;> simp

theorem Shows.create (shows : Shows tree scene) (forest : tree.Forest) {parent : WindowId}
    {scale : Binary32} {accelerated : Bool} {process : UInt32}
    (created : tree.create scene.hasViews id parent scale accelerated process = .ok change) :
    Shows change.tree (scene.performAll change.commands) := by
  rcases Tree.create_eq_ok created with ⟨-, -, rfl⟩ | ⟨dead, first, rfl, making⟩
  · exact shows.quiet (Tree.quiet_accelerate tree id)
  · have added : Shows first.tree (scene.performAll first.commands) := by
      rcases making with topLevel | ⟨target, detached, child⟩
      · exact shows.createTopLevel forest dead topLevel
      · exact shows.createChild forest dead detached child
    split
    · rw [Change.followedBy, Scene.performAll_append]
      exact added.quiet (Tree.quiet_accelerate first.tree id)
    · exact added

/-! ## Removal -/

/-- The children that stay attached when a window and its children leave every container. -/
def Tree.shownWithout (tree : Tree) (id : WindowId) (shown : WindowId → Bool)
    (other : WindowId) : Bool :=
  other != id && (decide (tree.parent? other ≠ some id) && shown other)

theorem Mounted.tearDownTopLevel (mounted : Mounted tree scene hosted shown desktop)
    (forest : tree.Forest) (id : WindowId) :
    Mounted tree (scene.performAll [.remove .desktop id, .destroyViews id])
      (fun other => other != id && hosted other) (tree.shownWithout id shown)
      (Stacking.without desktop id) := by
  have removed := (mounted.removeFromDesktop id).destroyViews forest id
  rwa [Stacking.without_of_notMem (Stacking.not_mem_without desktop id)] at removed

theorem Mounted.tearDownChild (mounted : Mounted tree scene hosted shown desktop)
    (forest : tree.Forest) (id : WindowId) :
    Mounted tree (scene.performAll (tree.detachCommands id ++ [.destroyViews id]))
      (fun other => other != id && hosted other) (tree.shownWithout id shown)
      (Stacking.without desktop id) := by
  rw [Scene.performAll_append]
  refine ((mounted.detach forest id).destroyViews forest id).congr forest (fun _ => rfl) ?_
  intro other parent link
  unfold Tree.shownWithout
  cases other != id <;> rfl

theorem Mounted.destroyOne (mounted : Mounted tree scene hosted shown desktop)
    (forest : tree.Forest) (live : tree.isLive id = true) :
    Mounted tree (scene.performAll (tree.destroyOne id).commands)
      (fun other => other != id && hosted other) (tree.shownWithout id shown)
      (Stacking.without desktop id) := by
  obtain ⟨node, found⟩ := Tree.isLive_iff.mp live
  simp only [Tree.destroyOne, found]
  cases node.kind with
  | topLevel flag =>
      dsimp only [Change.announcing]
      rw [Scene.performAll_append]
      exact (mounted.tearDownTopLevel forest id).quiet (Tree.quiet_announceCommands _)
  | child => exact mounted.tearDownChild forest id
  | desktop => exact mounted.destroyViews forest id

theorem Shows.destroyOne (shows : Shows tree scene) (forest : tree.Forest)
    (live : tree.isLive id = true) (childless : tree.children id = []) :
    Shows (tree.destroyOne id).tree (scene.performAll (tree.destroyOne id).commands) := by
  have rehomed := Tree.rehomed_destroyOne forest live childless
  have notParent : ∀ child, tree.parent? child ≠ some id := by
    intro child link
    have member := (forest.links.linked child id).mp link
    rw [childless] at member
    cases member
  have detached : tree.shownWithout id tree.isVisible id = false := by simp [Tree.shownWithout]
  have mounted := (shows.mounted.destroyOne forest live).retree (rehomed.filter_children detached)
  refine Shows.of_mounted (forest.ofRehomed rehomed) mounted ?_ ?_ fun other parent link => ?_
  · refine shows.hosting.rehome rehomed
      (fun other different isHosted => by simp [different, isHosted])
      (fun other isHosted => ?_) (by simp) (by simp) fun child link => absurd link (notParent child)
    obtain ⟨different, wasHosted⟩ := Bool.and_eq_true_iff.mp isHosted
    rw [rehomed.isLive_of_ne (by simpa using different)]
    exact shows.hosting.live other wasHosted
  · refine shows.inStep.without ?_ fun other different => rehomed.isStacked_of_ne different
    rw [rehomed.order, if_neg (by simp)]
  · have different := rehomed.ne_of_parent link
    rw [rehomed.isVisible_of_ne different]
    simp [Tree.shownWithout, different, notParent other]

theorem Shows.destroy (shows : Shows tree scene) (forest : tree.Forest) (id : WindowId) :
    Shows (tree.destroy id).tree (scene.performAll (tree.destroy id).commands) := by
  refine Tree.destroy_induction forest
    (motive := fun change => Shows change.tree (scene.performAll change.commands)) id shows ?_
  intro change window changeForest live childless changeShows
  rw [Change.followedBy, Scene.performAll_append]
  exact changeShows.destroyOne changeForest live childless

end WindowRelay
