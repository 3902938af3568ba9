import WindowRelay.Proofs.Desk.Moves
import WindowRelay.Proofs.Desk.Placements
import WindowRelay.Proofs.Desk.Structure

/-!
Contract: the host containers after every run.

Owns:
- every event keeps the agreement of host and tree;
- each client container holds the visible children of its window in their order;
- the desktop container holds the top-level windows, those on show in the order of the tree.
-/

namespace WindowRelay

namespace Desk

variable {reserveFront : Bool} {events : List TreeEvent} {desk : Desk} {output : Output}

/-! ## Every event -/

theorem shows_of_change {event : TreeEvent} {change : Change} (shows : Shows desk.tree desk.scene)
    (forest : desk.tree.Forest)
    (accepted : desk.tree.change desk.scene.hasViews event = .ok change) :
    Shows change.tree (desk.scene.performAll change.commands) := by
  cases event with
  | createDesktop id => exact shows.createDesktop forest accepted
  | create id parent scale accelerated process => exact shows.create forest accepted
  | startAccelerated id => exact shows.quiet (Tree.quiet_startAccelerated accepted)
  | destroy id =>
      cases accepted
      exact shows.destroy forest id
  | reparent id parent scale => exact shows.reparent forest accepted
  | position id placement => exact shows.position forest accepted
  | focus id => exact shows.quiet (Tree.quiet_focus accepted)
  | setText id text => exact shows.quiet (Tree.quiet_setText accepted)
  | setIcon id icon => exact shows.quiet (Tree.quiet_setIcon accepted)
  | surfaceAvailable id kind handle => exact shows.quiet (Tree.quiet_surfaceAvailable accepted)
  | surfaceDestroyed id kind => exact shows.quiet (Tree.quiet_surfaceDestroyed accepted)
  | viewVisibility id kind visible => exact shows.quiet (Tree.quiet_viewVisibility accepted)
  | activityStarted =>
      cases accepted
      exact shows.quiet (Tree.quiet_activityStarted desk.tree)
  | activityStopped =>
      cases accepted
      exact shows.quiet (Tree.quiet_activityStopped desk.tree)

theorem shows_of_run (ran : (fresh reserveFront).run events = .ok (desk, output)) :
    desk.tree.Forest ∧ Shows desk.tree desk.scene := by
  refine run_preserves (motive := fun desk => desk.tree.Forest ∧ Shows desk.tree desk.scene) ?_
    ⟨Tree.forest_empty, Shows.empty reserveFront⟩ ran
  intro desk event change good accepted
  obtain ⟨forest, shows⟩ := good
  exact ⟨forest.ofChange accepted, shows_of_change shows forest accepted⟩

/-! ## Client containers -/

/-- The client container of a window with views holds its visible children in their order, so no
child is attached in two client containers, or in one and in the desktop container. -/
theorem client_containers_hold_visible_children
    (ran : (fresh reserveFront).run events = .ok (desk, output)) :
    (∀ id node, desk.tree.node? id = some node → desk.scene.hasViews id = true →
      desk.scene.children (.client id) = node.children.filter desk.tree.isVisible) ∧
    (∀ id first second, id ∈ desk.scene.children (.client first) →
      id ∈ desk.scene.children (.client second) → first = second) ∧
    ∀ id parent, id ∈ desk.scene.children (.client parent) →
      id ∉ desk.scene.children .desktop := by
  obtain ⟨forest, shows⟩ := shows_of_run ran
  have linkOf : ∀ id parent, id ∈ desk.scene.children (.client parent) →
      desk.tree.parent? id = some parent := by
    intro id parent member
    rw [shows.mounted.lists] at member
    exact (forest.links.linked id parent).mpr (List.mem_of_mem_filter member)
  refine ⟨fun id node found _ => ?_, fun id first second inFirst inSecond => ?_,
    fun id parent member onDesktop => ?_⟩
  · rw [shows.mounted.lists, Tree.children_of_node? found]
  · exact Option.some.inj ((linkOf id first inFirst).symm.trans (linkOf id second inSecond))
  · obtain ⟨flag, isTopLevel⟩ :=
      (forest.listed id).mp (shows.inStep.sameWindows.mem_iff.mp onDesktop)
    have parentless := forest.anchored id _ isTopLevel (by simp)
    rw [linkOf id parent member] at parentless
    cases parentless

theorem client_containers_after_shortRun :
    ∃ desk output, (fresh true).run shortRun = .ok (desk, output) ∧
      (∃ node, desk.tree.node? 16 = some node ∧ node.children = [18, 35, 32] ∧
        desk.scene.children (.client 16) = node.children.filter desk.tree.isVisible) ∧
      desk.scene.children (.client 16) = [18, 32] ∧ 18 ∉ desk.scene.children .desktop := by
  have passes : (fresh true).finishes shortRun
      (fun desk => desk.tree.children 16 = [18, 35, 32] ∧ desk.tree.isLive 16 = true ∧
        desk.scene.hasViews 16 = true ∧ desk.scene.children (.client 16) = [18, 32]) = true := by
    decide +kernel
  obtain ⟨desk, output, ran, passed⟩ := exists_of_finishes passes
  obtain ⟨children, live, hosted, container⟩ := of_decide_eq_true passed
  obtain ⟨agree, -, apart⟩ := client_containers_hold_visible_children ran
  obtain ⟨node, found⟩ := Tree.isLive_iff.mp live
  refine ⟨desk, output, ran, ⟨node, found, ?_, agree 16 node found hosted⟩, container,
    apart 18 16 (by simp [container])⟩
  rw [← Tree.children_of_node? found, children]

/-! ## The desktop container -/

/-- The desktop container holds the windows of the top-level order once each; the visible windows
that are not minimized stand in the same order in both. -/
theorem desktop_container_in_step (ran : (fresh reserveFront).run events = .ok (desk, output)) :
    (desk.scene.children .desktop).Nodup ∧
    (desk.scene.children .desktop).Perm desk.tree.order ∧
    (desk.scene.children .desktop).filter
        (desk.tree.holds fun node => node.visible && !node.minimized) =
      desk.tree.order.filter (desk.tree.holds fun node => node.visible && !node.minimized) := by
  obtain ⟨-, shows⟩ := shows_of_run ran
  exact ⟨shows.inStep.distinct, shows.inStep.sameWindows, shows.inStep.inOrder⟩

theorem desktop_container_after_shortRun :
    ∃ desk output, (fresh false).run shortRun = .ok (desk, output) ∧
      desk.scene.children .desktop = [34, 16, 17] ∧ desk.tree.order.Perm [34, 16, 17] ∧
      desk.tree.order.filter (desk.tree.holds fun node => node.visible && !node.minimized) =
        [16, 17] := by
  have passes : (fresh false).finishes shortRun
      (fun desk => desk.scene.children .desktop = [34, 16, 17] ∧
        [34, 16, 17].filter (desk.tree.holds fun node => node.visible && !node.minimized) =
          [16, 17]) = true := by
    decide +kernel
  obtain ⟨desk, output, ran, passed⟩ := exists_of_finishes passes
  obtain ⟨container, onShow⟩ := of_decide_eq_true passed
  obtain ⟨-, sameWindows, inOrder⟩ := desktop_container_in_step ran
  rw [container] at sameWindows inOrder
  exact ⟨desk, output, ran, container, sameWindows.symm, inOrder.symm.trans onShow⟩

end Desk

end WindowRelay
