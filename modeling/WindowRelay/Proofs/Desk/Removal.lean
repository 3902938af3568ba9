import WindowRelay.Proofs.Desk.Containers
import WindowRelay.Proofs.Tree.Removal

/-!
Contract: what is left of a desk when a window goes with everything below it.

Owns:
- a scene that loses one window, and a scene of which only some windows stay;
- the host while a subtree is torn down keeps what the tree keeps;
- the removal of a window takes exactly its subtree out of tree and host, tells about exactly the
  bound surfaces in it, and is not felt a second time.
-/

namespace WindowRelay

/-- A view with those of its windows that stay. -/
def View.keeping (view : View) (stays : WindowId → Bool) : View :=
  { view with stack := view.stack.filter fun entry => entry.window?.all stays }

namespace View

variable {view : View} {stays : WindowId → Bool} {id : WindowId}

theorem keeping_congr {others : WindowId → Bool}
    (agree : ∀ window ∈ view.windows, stays window = others window) :
    view.keeping stays = view.keeping others := by
  have sameStack : view.stack.filter (fun entry => entry.window?.all stays) =
      view.stack.filter fun entry => entry.window?.all others := by
    apply List.filter_congr
    intro entry member
    cases entry with
    | content => rfl
    | window window =>
        exact agree window (List.mem_filterMap.mpr ⟨.window window, member, rfl⟩)
  rw [keeping, keeping, sameStack]

theorem keeping_all (view : View) : view.keeping (fun _ => true) = view := by
  have all : view.stack.filter (fun entry => entry.window?.all fun _ => true) = view.stack := by
    apply List.filter_eq_self.mpr
    intro entry _
    cases entry <;> rfl
  rw [keeping, all]

theorem remove_keeping (view : View) (stays : WindowId → Bool) (id : WindowId) :
    (view.keeping stays).remove id =
      view.keeping fun window => window != id && stays window := by
  have stack : (view.stack.filter fun entry => entry.window?.all stays).filter (· != .window id) =
      view.stack.filter fun entry =>
        entry.window?.all fun window => window != id && stays window := by
    rw [List.filter_filter]
    apply List.filter_congr
    intro entry _
    cases entry with
    | content => rfl
    | window window => rw [window_bne_window]; rfl
  exact congrArg (fun stack => { view with stack }) stack

theorem remove_eq_keeping (view : View) (id : WindowId) :
    view.remove id = view.keeping (· != id) := by
  have removed := remove_keeping view (fun _ => true) id
  simpa [keeping_all] using removed

theorem remove_remove (view : View) (id : WindowId) :
    (view.remove id).remove id = view.remove id := by
  simp [remove]

end View

namespace Shows

variable {tree : Tree} {scene : Scene} {id parent : WindowId}

/-- A client container shows children of its window. -/
theorem mem_children_of_mem_windows (shows : Shows tree scene) {view : View}
    (found : scene.view? parent = some view) (member : id ∈ view.windows) :
    id ∈ tree.children parent := by
  have attached : id ∈ scene.children (.client parent) := by
    rw [Scene.children_client_eq, found]
    exact member
  rw [shows.mounted.lists] at attached
  exact List.mem_of_mem_filter attached

/-- Only live windows stand in containers. -/
theorem isLive_of_mem_children (shows : Shows tree scene) (forest : tree.Forest)
    {container : Container} (member : id ∈ scene.children container) : tree.isLive id = true := by
  cases container with
  | desktop =>
      by_contra dead
      exact forest.not_mem_order_of_dead dead (shows.inStep.sameWindows.mem_iff.mp member)
  | client parent =>
      rw [shows.mounted.lists] at member
      have link := (forest.links.linked id parent).mpr (List.mem_of_mem_filter member)
      exact (forest.isLive_of_child link).1

end Shows

namespace Scene

variable {before after last : Scene} {stays : WindowId → Bool} {id : WindowId}

/-! ## One window -/

/-- One window has lost its views and has left every container. -/
structure Loses (before after : Scene) (id : WindowId) : Prop where
  views : ∀ other, after.view? other =
    if other = id then none else (before.view? other).map (·.remove id)
  desktop : after.desktop = Stacking.without before.desktop id

theorem loses_destroyViews (scene : Scene) (id : WindowId) :
    Loses scene (scene.destroyViews id) id :=
  ⟨fun other => view?_destroyViews scene id other, rfl⟩

/-- What a window has left before it loses its views does not matter. -/
theorem Loses.of_remove {scene : Scene} {container : Container}
    (loses : Loses (scene.remove container id) after id) : Loses scene after id := by
  cases container with
  | desktop =>
      refine ⟨loses.views, loses.desktop.trans ?_⟩
      exact Stacking.without_of_notMem (Stacking.not_mem_without scene.desktop id)
  | client parent =>
      refine ⟨fun other => (loses.views other).trans ?_, loses.desktop⟩
      have removed : (scene.remove (.client parent) id).view? other =
          if other = parent then (scene.view? other).map (·.remove id) else scene.view? other :=
        view?_updateView scene parent other _
      rw [removed]
      by_cases isParent : other = parent <;>
        simp [isParent, Function.comp_def, View.remove_remove]

/-- The announcement of a title touches no view. -/
theorem Loses.announce (loses : Loses before after id) (tree : Tree) :
    Loses before (after.performAll tree.announceCommands) id := by
  unfold Tree.announceCommands
  split
  · exact loses
  · exact ⟨loses.views, loses.desktop⟩

theorem loses_destroyOne {tree : Tree} (live : tree.isLive id = true) (scene : Scene) :
    Loses scene (scene.performAll (tree.destroyOne id).commands) id := by
  obtain ⟨node, found⟩ := Tree.isLive_iff.mp live
  simp only [Tree.destroyOne, found]
  cases node.kind with
  | topLevel flag =>
      dsimp only [Change.announcing]
      rw [performAll_append]
      have torn : Loses scene ((scene.remove .desktop id).destroyViews id) id :=
        (loses_destroyViews _ id).of_remove
      exact torn.announce _
  | child =>
      dsimp only
      unfold Tree.detachCommands
      split
      · exact (loses_destroyViews _ id).of_remove
      · exact loses_destroyViews scene id
  | desktop => exact loses_destroyViews scene id

/-! ## The windows that stay -/

/-- Of all windows only some have stayed. -/
structure Leaves (before after : Scene) (stays : WindowId → Bool) : Prop where
  views : ∀ other, after.view? other =
    if stays other = true then (before.view? other).map (·.keeping stays) else none
  desktop : after.desktop = before.desktop.filter stays

theorem Leaves.lose (leaves : Leaves before after stays) (loses : Loses after last id) :
    Leaves before last (fun other => other != id && stays other) := by
  refine ⟨fun other => ?_, ?_⟩
  · rw [loses.views, leaves.views]
    by_cases isId : other = id
    · simp [isId]
    · by_cases stillThere : stays other = true <;>
        simp [isId, stillThere, Function.comp_def, View.remove_keeping]
  · rw [loses.desktop, leaves.desktop, Stacking.without, List.filter_filter]

/-- The host keeps showing the windows that are live, and no others. -/
theorem leaves_self {tree : Tree} {scene : Scene} (forest : tree.Forest)
    (shows : Shows tree scene) : Leaves scene scene tree.isLive where
  views other := by
    split
    · cases found : scene.view? other with
      | none => rfl
      | some view =>
          have all : view.keeping tree.isLive = view.keeping fun _ => true := by
            apply View.keeping_congr
            intro window member
            have isChild := shows.mem_children_of_mem_windows found member
            exact (forest.isLive_of_child ((forest.links.linked window other).mpr isChild)).1
          rw [Option.map_some, all, View.keeping_all]
    · next dead =>
        by_contra hasViews
        have hosted : scene.hasViews other = true := by
          rw [hasViews_eq]
          exact Option.isSome_iff_ne_none.mpr hasViews
        exact dead (shows.hosting.live other hosted)
  desktop :=
    (List.filter_eq_self.mpr fun _ member => shows.isLive_of_mem_children forest
      (show _ ∈ scene.children .desktop from member)).symm

/-- While a subtree is torn down, the host is left with what the tree is left with. -/
theorem leaves_destroy {tree : Tree} {scene : Scene} (forest : tree.Forest)
    (shows : Shows tree scene) (root : WindowId) :
    Leaves scene (scene.performAll (tree.destroy root).commands)
      (tree.destroy root).tree.isLive := by
  refine Tree.destroy_induction forest
    (motive := fun change => Leaves scene (scene.performAll change.commands) change.tree.isLive)
    root (leaves_self forest shows) ?_
  intro change window _ live _ leaves
  have stays : (change.followedBy (·.destroyOne window)).tree.isLive =
      fun other => other != window && change.tree.isLive other :=
    funext (Tree.isLive_destroyOne change.tree window)
  rw [stays, Change.followedBy, performAll_append]
  exact leaves.lose (loses_destroyOne live _)

/-! ## What is left at the end -/

section Destroy

variable {tree : Tree} {scene : Scene} (forest : tree.Forest) (shows : Shows tree scene)
  (root : WindowId)

include forest shows

theorem view?_destroy (other : WindowId) :
    (scene.performAll (tree.destroy root).commands).view? other =
      if other ∈ tree.subtree root then none
      else (scene.view? other).map fun view =>
        if tree.parent? root = some other then view.remove root else view := by
  rw [(leaves_destroy forest shows root).views]
  cases found : scene.view? other with
  | none => simp
  | some view =>
      have hosted : scene.hasViews other = true := by rw [hasViews_eq, found]; rfl
      have live := shows.hosting.live other hosted
      by_cases inside : other ∈ tree.subtree root
      · have gone : ¬ (tree.destroy root).tree.isLive other = true := fun stays =>
          ((Tree.isLive_destroy_iff forest).mp stays).2 inside
        simp [inside, gone]
      · have stays := (Tree.isLive_destroy_iff forest).mpr ⟨live, inside⟩
        have isChild : ∀ window ∈ view.windows, window ∈ tree.children other :=
          fun _ member => shows.mem_children_of_mem_windows found member
        have left : view.keeping (tree.destroy root).tree.isLive = view.remove root := by
          rw [View.remove_eq_keeping]
          exact View.keeping_congr fun window member =>
            Tree.isLive_destroy_child forest inside (isChild window member)
        rw [if_pos stays, if_neg inside, Option.map_some, Option.map_some, left]
        split
        · rfl
        · next notParent =>
            have same : view.keeping (· != root) = view.keeping fun _ => true := by
              refine View.keeping_congr fun window member => bne_iff_ne.mpr ?_
              rintro rfl
              exact notParent ((forest.links.linked window other).mpr (isChild window member))
            rw [View.remove_eq_keeping, same, View.keeping_all]

theorem desktop_destroy :
    (scene.performAll (tree.destroy root).commands).desktop =
      Stacking.without scene.desktop root := by
  rw [(leaves_destroy forest shows root).desktop]
  apply List.filter_congr
  intro other member
  obtain ⟨flag, isTopLevel⟩ :=
    (forest.listed other).mp (shows.inStep.sameWindows.mem_iff.mp member)
  refine Tree.isLive_destroy_parentless forest ?_ (forest.anchored other _ isTopLevel (by simp))
  rw [Tree.isLive_eq_kind?, isTopLevel]
  rfl

end Destroy

end Scene

namespace Desk

variable {reserveFront : Bool} {events : List TreeEvent} {desk : Desk} {output : Output}
  {id : WindowId}

/-- A window has gone with everything below it, and nothing else is changed. -/
structure RemovesSubtree (desk : Desk) (id : WindowId) (next : Desk) (sent : Output) : Prop where
  gone : ∀ other ∈ desk.tree.subtree id, next.tree.node? other = none
  kept : ∀ other, other ∉ desk.tree.subtree id →
    next.tree.node? other = (desk.tree.node? other).map fun node =>
      if desk.tree.parent? id = some other then
        { node with children := Stacking.without node.children id }
      else node
  order : next.tree.order = Stacking.without desk.tree.order id
  desktop : next.tree.desktop = if desk.tree.desktop = some id then none else desk.tree.desktop
  viewsGone : ∀ other ∈ desk.tree.subtree id, next.scene.view? other = none
  viewsKept : ∀ other, other ∉ desk.tree.subtree id →
    next.scene.view? other = (desk.scene.view? other).map fun view =>
      if desk.tree.parent? id = some other then view.remove id else view
  nowhere : ∀ other ∈ desk.tree.subtree id, ∀ container, other ∉ next.scene.children container
  onDesktop : next.scene.children .desktop =
    Stacking.without (desk.scene.children .desktop) id
  calls : sent.calls = (desk.tree.subtree id).flatMap fun other =>
    ([.whole, .client].filter fun kind => (desk.tree.binding? other kind).isSome).map fun kind =>
      .surfaceChanged other none kind.isClient
  again : ∀ other ∈ desk.tree.subtree id, next.apply (.destroy other) = .ok (next, {})

theorem apply_destroy_of_dead (dead : ¬ desk.tree.isLive id = true) :
    desk.apply (.destroy id) = .ok (desk, {}) := by
  have nothing : desk.tree.change desk.scene.hasViews (.destroy id) = .ok { tree := desk.tree } :=
    congrArg Except.ok (Tree.destroy_of_dead dead)
  rw [apply, nothing]
  rfl

theorem removesSubtree_destroy (forest : desk.tree.Forest) (shows : Shows desk.tree desk.scene)
    (id : WindowId) :
    ∃ next sent, desk.apply (.destroy id) = .ok (next, sent) ∧
      RemovesSubtree desk id next sent := by
  have gone : ∀ other ∈ desk.tree.subtree id, ¬ (desk.tree.destroy id).tree.isLive other = true :=
    fun other inside stays => ((Tree.isLive_destroy_iff forest).mp stays).2 inside
  have afterForest := forest.ofEvolves (Tree.destroy_evolves forest id)
  have afterShows := shows.destroy forest id
  refine ⟨_, _, rfl, ?_⟩
  exact
    { gone := fun other inside => Tree.node?_eq_none_of_not_isLive (gone other inside)
      kept := fun other outside => (Tree.node?_destroy forest id other).trans (if_neg outside)
      order := Tree.order_destroy forest id
      desktop := Tree.desktop_destroy forest id
      viewsGone := fun other inside =>
        (Scene.view?_destroy forest shows id other).trans (if_pos inside)
      viewsKept := fun other outside =>
        (Scene.view?_destroy forest shows id other).trans (if_neg outside)
      nowhere := fun other inside _ member =>
        gone other inside (afterShows.isLive_of_mem_children afterForest member)
      onDesktop := Scene.desktop_destroy forest shows id
      calls := Tree.calls_destroy forest id
      again := fun other inside => apply_destroy_of_dead (gone other inside) }

/-- The windows of a subtree are its root and all windows that descend from it, each listed once:
the subtrees of the children first, from the front-most child to the back-most, and then the window
itself. Removing a live window takes exactly these out of tree and host, and tells about exactly
the surfaces that are bound in them, in that order. -/
theorem destroy_removes_subtree (ran : (fresh reserveFront).run events = .ok (desk, output))
    (live : desk.tree.isLive id = true) :
    (∀ other, other ∈ desk.tree.subtree id ↔ other = id ∨ desk.tree.Descends id other) ∧
    (desk.tree.subtree id).Nodup ∧
    (∀ other ∈ desk.tree.subtree id, desk.tree.subtree other =
      (desk.tree.children other).reverse.flatMap desk.tree.subtree ++ [other]) ∧
    ∃ next sent, desk.apply (.destroy id) = .ok (next, sent) ∧
      RemovesSubtree desk id next sent := by
  obtain ⟨forest, shows⟩ := shows_of_run ran
  refine ⟨fun other => Tree.mem_subtree_iff_descends forest live, Tree.nodup_subtree forest id,
    fun other inside => ?_, removesSubtree_destroy forest shows id⟩
  exact Tree.subtree_of_live forest ((Tree.mem_subtree_iff forest).mp inside).1

/-- A window with two children and one grandchild, of which some have surfaces, is shown in the
container of its parent. -/
def removalRun : List TreeEvent :=
  [.create 16 0 Binary32.one false 0,
    .create 17 16 Binary32.one false 0,
    .create 32 17 Binary32.one false 0,
    .create 33 17 Binary32.one false 0,
    .create 34 32 Binary32.one false 0,
    .position 17 (shortPlacement 0 Style.visible),
    .position 33 (shortPlacement 0 Style.visible),
    .surfaceAvailable 34 .client 7,
    .surfaceAvailable 34 .whole 8,
    .surfaceAvailable 33 .whole 9,
    .surfaceAvailable 17 .client 10]

theorem destroy_removes_subtree_after_removalRun :
    ∃ desk output, (fresh true).run removalRun = .ok (desk, output) ∧
      desk.tree.subtree 17 = [33, 34, 32, 17] ∧ desk.scene.children (.client 16) = [17] ∧
      ∃ next sent, desk.apply (.destroy 17) = .ok (next, sent) ∧
        RemovesSubtree desk 17 next sent ∧
        sent.calls = [.surfaceChanged 33 none false, .surfaceChanged 34 none false,
          .surfaceChanged 34 none true, .surfaceChanged 17 none true] := by
  have passes : (fresh true).finishes removalRun (fun desk =>
      desk.tree.isLive 17 ∧ desk.tree.subtree 17 = [33, 34, 32, 17] ∧
        desk.scene.children (.client 16) = [17] ∧
        [33, 34, 32, 17].flatMap desk.tree.farewell =
          [.surfaceChanged 33 none false, .surfaceChanged 34 none false,
            .surfaceChanged 34 none true, .surfaceChanged 17 none true]) = true := by
    decide +kernel
  obtain ⟨desk, output, ran, passed⟩ := exists_of_finishes passes
  obtain ⟨live, windows, container, calls⟩ := of_decide_eq_true passed
  obtain ⟨-, -, -, next, sent, applied, removes⟩ := destroy_removes_subtree ran live
  refine ⟨desk, output, ran, windows, container, next, sent, applied, removes, ?_⟩
  rw [← calls, ← windows]
  exact removes.calls

end Desk

end WindowRelay
