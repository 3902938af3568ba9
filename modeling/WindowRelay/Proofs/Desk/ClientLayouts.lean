import WindowRelay.Proofs.Desk.Histories
import WindowRelay.Proofs.Geometry.Layout

/-!
Contract: the client containers of windows that have a client backing.

Owns:
- such a container has its real layout exactly if rendering was not started again under the backing;
- a run after which a client backing is left at the kickoff layout.

Starting accelerated rendering gives the client container the kickoff layout, and the backing that
the host allocates for it brings the real layout back. Under a backing that is there already no
other one comes: the container keeps the kickoff layout until the window is settled or its backing
changes.
-/

namespace WindowRelay

/-- Whether rendering was started again under a client backing, and neither another backing came
nor the window was settled since. -/
def renderingRestart (id : WindowId) : Note Bool := fun before event after =>
  if event.settles id before after then some false
  else if event.accelerates id && before.any (·.surfaces.client.isSome) then some true
  else
    match event with
    | .surfaceAvailable target .client handle =>
      if id == target && before.bind (·.surfaces.client) != some handle then some false else none
    | _ => none

section Notes

variable {id : WindowId} {event : TreeEvent} {before after : Option Node}

theorem renderingRestart_of_settled (settled : event.settles id before after = true) :
    renderingRestart id before event after = some false :=
  if_pos settled

theorem renderingRestart_of_unsettled (unsettled : event.settles id before after = false)
    (keepsMode : (event.accelerates id && before.any (·.surfaces.client.isSome)) = false)
    (keepsBacking : ∀ handle, event = .surfaceAvailable id .client handle →
      before.bind (·.surfaces.client) = some handle) :
    renderingRestart id before event after = none := by
  unfold renderingRestart
  rw [unsettled, keepsMode, if_neg (by simp), if_neg (by simp)]
  split
  · next target handle =>
      by_cases isTarget : id = target
      · simp [keepsBacking handle (isTarget ▸ rfl)]
      · simp [isTarget]
  · rfl

end Notes

/-- The kickoff layout is no real layout. -/
theorem Node.clientFootprint_ne_kickoff (node : Node) :
    node.clientLayout >>= Layout.padded ≠ .ok Layout.kickoff := by
  intro real
  obtain ⟨area, -, padded⟩ := bind_eq_ok.mp real
  exact Layout.padded_ne_kickoff padded

/-- The layout of the client container under a client backing, if rendering was started again
under it or not. -/
def Restores (node : Node) (face : View) (restarted : Bool) : Prop :=
  node.surfaces.client.isSome = true →
    if restarted then face.clientLayout = Layout.kickoff
    else node.clientLayout >>= Layout.padded = .ok face.clientLayout

namespace Restores

variable {id : WindowId} {node after : Node} {face built : View} {event : TreeEvent}
  {restarted : Bool}

theorem of_unbound (unbound : node.surfaces = {}) : Restores node face restarted := by
  intro bound
  rw [unbound] at bound
  cases bound

/-- What an event makes of a window keeps its client layout right. -/
theorem turn (restores : Restores node face restarted)
    (turn : Turn id node face event after built) :
    Restores after built ((renderingRestart id (some node) event (some after)).getD restarted) := by
  cases turn with
  | spared away =>
      rw [renderingRestart_of_unsettled (TreeEvent.settles_of_spared away)
        (by simp [TreeEvent.accelerates_of_spared away])]
      · exact restores
      · rintro handle rfl
        simp [TreeEvent.touches] at away
  | accelerated starts =>
      intro bound
      have boundBefore : node.surfaces.client.isSome = true := bound
      have restart : ∀ after, renderingRestart id (some node) event after = some true :=
        fun after => by
          simp [renderingRestart, TreeEvent.settles_of_accelerates starts, starts, boundBefore]
      rw [restart]
      exact rfl
  | placed places isClient =>
      rw [renderingRestart_of_settled (by simp [TreeEvent.settles])]
      exact fun _ => isClient
  | stayed parent scale =>
      rw [renderingRestart_of_unsettled (by simp [TreeEvent.settles_reparent]) rfl (by simp)]
      exact restores
  | moved scale isChild isWhole =>
      rw [renderingRestart_of_unsettled ?_ rfl (by simp)]
      · exact restores
      · rw [TreeEvent.settles_reparent]
        exact bne_self_eq_false node.isTopLevel
  | rebuilt switches sameMode unbound builds => exact of_unbound unbound
  | @backedWhole handle whole isWhole =>
      rw [renderingRestart_of_unsettled rfl rfl (by simp)]
      intro bound
      have sameClient : (node.surfaces.bind .whole handle).1.get .client =
          node.surfaces.get .client :=
        Surface.Slots.get_bind_of_ne node.surfaces handle (by simp)
      have boundBefore : (node.surfaces.get .client).isSome = true := sameClient ▸ bound
      exact restores boundBefore
  | @backedClient handle client isClient =>
      by_cases known : node.surfaces.client = some handle
      · rw [renderingRestart_of_unsettled rfl rfl (by simp [known])]
        rw [if_pos known] at isClient
        cases isClient
        exact fun _ => restores (by simp [known])
      · have another : ∀ after, renderingRestart id (some node)
            (.surfaceAvailable id .client handle) after = some false := fun after => by
          simp [renderingRestart, TreeEvent.settles, TreeEvent.accelerates, known]
        rw [another]
        rw [if_neg known] at isClient
        exact fun _ => isClient
  | released kind =>
      rw [renderingRestart_of_unsettled rfl rfl (by simp)]
      intro bound
      cases kind with
      | whole => exact restores bound
      | client => cases bound

end Restores

namespace Desk

variable {reserveFront : Bool} {events : List TreeEvent} {desk : Desk} {output : Output}

theorem restores_carried (id : WindowId) : Carried Restores (renderingRestart id) id where
  begins _ unbound _ := Restores.of_unbound unbound
  turns _ turn restores := restores.turn turn

/-- Under a client backing the client container has its real layout, unless rendering was started
again under the backing and neither another backing came nor the window was settled since; in that
case it has the kickoff layout, which is no real layout. -/
theorem client_backing_has_real_layout_iff
    (ran : (fresh reserveFront).run events = .ok (desk, output)) :
    ∀ id node view, desk.tree.node? id = some node → node.kind ≠ .desktop →
      desk.scene.view? id = some view → node.surfaces.client.isSome = true →
      (node.clientLayout >>= Layout.padded = .ok view.clientLayout ↔
        (fresh reserveFront).remembered (renderingRestart id) id false events = false) ∧
      ((fresh reserveFront).remembered (renderingRestart id) id false events = true →
        view.clientLayout = Layout.kickoff) := by
  intro id node view found notDesktop isView bound
  have pictures := pictures_of_run (restores_carried id) false ran
  obtain ⟨foundView, isFoundView, restores⟩ := pictures.exists_view found notDesktop
  cases isView.symm.trans isFoundView
  have layout := restores bound
  cases restarted : (fresh reserveFront).remembered (renderingRestart id) id false events with
  | false =>
      rw [restarted] at layout
      exact ⟨iff_of_true layout rfl, fun impossible => by cases impossible⟩
  | true =>
      rw [restarted] at layout
      have isKickoff : view.clientLayout = Layout.kickoff := layout
      rw [isKickoff]
      exact ⟨iff_of_false node.clientFootprint_ne_kickoff (by simp), fun _ => rfl⟩

/-- Two accelerated windows get a client backing. One of them, which is shown, is asked for again,
as accelerated as before, and its backing is reported once more. -/
def restartRun : List TreeEvent :=
  [.create 16 0 Binary32.one true 0,
    .position 16
      { shortPlacement 0 Style.visible with
        clientRect := ⟨2, 20, 98, 78⟩
        visibleRect := ⟨0, 0, 100, 80⟩ },
    .create 17 0 Binary32.one true 0,
    .surfaceAvailable 16 .client 7,
    .surfaceAvailable 17 .client 8,
    .create 16 0 Binary32.one true 0,
    .surfaceAvailable 16 .client 7]

theorem client_backing_has_real_layout_iff_after_restartRun :
    ∃ desk output, (fresh true).run restartRun = .ok (desk, output) ∧
      (∃ node view, desk.tree.node? 16 = some node ∧ desk.scene.view? 16 = some view ∧
        node.surfaces.client = some 7 ∧ view.clientLayout = Layout.kickoff) ∧
      ∃ node view, desk.tree.node? 17 = some node ∧ desk.scene.view? 17 = some view ∧
        node.surfaces.client = some 8 ∧
        node.clientLayout >>= Layout.padded = .ok view.clientLayout := by
  have passes : (fresh true).finishes restartRun
      (fun desk =>
        (desk.tree.holds fun node => node.kind ≠ .desktop ∧ node.surfaces.client = some 7) 16 ∧
        (desk.tree.holds fun node => node.kind ≠ .desktop ∧ node.surfaces.client = some 8) 17 ∧
        desk.scene.hasViews 16 = true ∧ desk.scene.hasViews 17 = true) = true := by
    decide +kernel
  have restarted : (fresh true).remembered (renderingRestart 16) 16 false restartRun = true := by
    decide +kernel
  have never : (fresh true).remembered (renderingRestart 17) 17 false restartRun = false := by
    decide +kernel
  obtain ⟨desk, output, ran, passed⟩ := exists_of_finishes passes
  obtain ⟨again, once, viewsAgain, viewsOnce⟩ := of_decide_eq_true passed
  have real := client_backing_has_real_layout_iff ran
  refine ⟨desk, output, ran, ?_, ?_⟩
  · obtain ⟨node, found, test⟩ := Tree.exists_of_holds again
    obtain ⟨notDesktop, bound⟩ := of_decide_eq_true test
    obtain ⟨view, isView⟩ := Option.isSome_iff_exists.mp viewsAgain
    exact ⟨node, view, found, isView, bound,
      (real 16 node view found notDesktop isView (by simp [bound])).2 restarted⟩
  · obtain ⟨node, found, test⟩ := Tree.exists_of_holds once
    obtain ⟨notDesktop, bound⟩ := of_decide_eq_true test
    obtain ⟨view, isView⟩ := Option.isSome_iff_exists.mp viewsOnce
    exact ⟨node, view, found, isView, bound,
      (real 17 node view found notDesktop isView (by simp [bound])).1.mpr never⟩

/-- A window whose client backing is bound may be left at the kickoff layout: asking for it again
takes its real layout away, and its backing, reported once more, does not bring it back. -/
theorem restarted_rendering_keeps_kickoff :
    ∃ desk output node view, (fresh true).run restartRun = .ok (desk, output) ∧
      desk.tree.node? 16 = some node ∧ desk.scene.view? 16 = some view ∧
      node.isTopLevel = true ∧ node.surfaces.client = some 7 ∧
      view.clientLayout = Layout.kickoff ∧
      node.clientLayout >>= Layout.padded ≠ .ok view.clientLayout := by
  have passes : (fresh true).finishes restartRun
      (fun desk =>
        (desk.tree.holds fun node => node.isTopLevel ∧ node.surfaces.client = some 7) 16 ∧
        (desk.scene.view? 16).map View.clientLayout = some Layout.kickoff) = true := by
    decide +kernel
  obtain ⟨desk, output, ran, passed⟩ := exists_of_finishes passes
  obtain ⟨holds, layout⟩ := of_decide_eq_true passed
  obtain ⟨node, found, test⟩ := Tree.exists_of_holds holds
  obtain ⟨isTopLevel, bound⟩ := of_decide_eq_true test
  obtain ⟨view, isView, isKickoff⟩ := Option.map_eq_some_iff.mp layout
  exact ⟨desk, output, node, view, ran, found, isView, isTopLevel, bound, isKickoff,
    isKickoff ▸ node.clientFootprint_ne_kickoff⟩

end Desk

end WindowRelay
