import WindowRelay.Proofs.Desk.Structure
import WindowRelay.Proofs.Tree.Surfaces

/-!
Contract: what the window manager knows about surfaces after every run.

Owns:
- the entries of a whole run lead from the bindings at its start to those at its end;
- so the last entry is the binding, and only bound surfaces are released;
- the steps that take a binding away.
-/

namespace WindowRelay

open Surface (Handle)

namespace Desk

variable {desk last : Desk} {output : Output} {events : List TreeEvent} {reserveFront : Bool}

theorem told_of_step (forest : desk.tree.Forest) {event : TreeEvent}
    (stepped : desk.step event = .ok (last, output)) (id : WindowId) (kind : Surface.Kind) :
    Told (desk.tree.binding? id kind) (surfaceEntries id kind output.calls)
      (last.tree.binding? id kind) := by
  rcases step_cases stepped with ⟨rfl, rfl⟩ | ⟨change, accepted, carriedOut⟩
  · exact .nil _
  · cases carriedOut
    exact Tree.told_of_change forest accepted id kind

theorem told_of_run (forest : desk.tree.Forest) (ran : desk.run events = .ok (last, output))
    (id : WindowId) (kind : Surface.Kind) :
    Told (desk.tree.binding? id kind) (surfaceEntries id kind output.calls)
      (last.tree.binding? id kind) := by
  induction events generalizing desk output with
  | nil =>
      cases ran
      exact .nil _
  | cons event rest inductionHypothesis =>
      obtain ⟨next, sent, later, stepped, ranRest, rfl⟩ := run_cons.mp ran
      have forestNext : next.tree.Forest := by
        rcases step_eq_ok stepped with rfl | ⟨change, accepted, rfl⟩
        · exact forest
        · exact forest.ofChange accepted
      have first := told_of_step forest stepped id kind
      have second := inductionHypothesis forestNext ranRest
      show Told _ (surfaceEntries id kind (sent.calls ++ later.calls)) _
      rw [surfaceEntries_append]
      exact first.append second

/-- For every kind of surface of every window: the last entry about it names the handle that is
bound, and none is bound when there is no entry or the last one says that the surface is gone; in
front of each such entry stands the announcement of a surface; a binding is lost only when the
surface is destroyed, with the subtree of the window, or when the window moves between the top
level and a parent; and no placement changes a binding. -/
theorem surface_calls_follow_bindings (ran : (fresh reserveFront).run events = .ok (desk, output))
    (id : WindowId) (kind : Surface.Kind) :
    (∀ handle, (surfaceEntries id kind output.calls).getLast? = some (some handle) ↔
      ∃ node, desk.tree.node? id = some node ∧ node.surfaces.get kind = some handle) ∧
    ((∀ node, desk.tree.node? id = some node → node.surfaces.get kind = none) →
      surfaceEntries id kind output.calls = [] ∨
        (surfaceEntries id kind output.calls).getLast? = some none) ∧
    (∀ earlier later, surfaceEntries id kind output.calls = earlier ++ none :: later →
      ∃ front handle, earlier = front ++ [some handle]) ∧
    (∀ event next sent handle, desk.step event = .ok (next, sent) →
      desk.tree.binding? id kind = some handle → next.tree.binding? id kind = none →
      event = .surfaceDestroyed id kind ∨
      (∃ root, event = .destroy root ∧ (id = root ∨ desk.tree.isBelow id root = true)) ∨
      ∃ parent scale before after, event = .reparent id parent scale ∧
        desk.tree.node? id = some before ∧ next.tree.node? id = some after ∧
        (before.isTopLevel = true ∧ after.kind = .child ∨
          before.kind = .child ∧ after.isTopLevel = true)) ∧
    ∀ window placement next sent, desk.step (.position window placement) = .ok (next, sent) →
      next.tree.binding? id kind = desk.tree.binding? id kind := by
  have forest := forest_of_run ran
  have told : Told none (surfaceEntries id kind output.calls) (desk.tree.binding? id kind) :=
    told_of_run Tree.forest_empty ran id kind
  refine ⟨fun handle => ?_, fun unbound => ?_, fun earlier later entries => ?_,
    fun event next sent handle stepped wasBound isGone => ?_,
    fun window placement next sent stepped => ?_⟩
  · exact told.getLast?_eq_some_iff.trans Option.bind_eq_some_iff
  · have noBinding : desk.tree.binding? id kind = none := Option.bind_eq_none_iff.mpr unbound
    rw [noBinding] at told
    exact told.eq_nil_or_getLast?
  · rw [entries] at told
    exact told.announced_before_release
  · rcases step_eq_ok stepped with rfl | ⟨change, accepted, rfl⟩
    · rw [wasBound] at isGone
      cases isGone
    · have fate := Tree.fate_of_change forest accepted id
      have noSurface : ((change.tree.record? id).bind fun record => record.surfaces.get kind) =
          none := by
        rw [← Tree.binding?_eq_record?]
        exact isGone
      rcases fate.unbound wasBound noSurface with destroyed | ⟨root, destroyed, inSubtree⟩ |
        ⟨parent, scale, record, rebuilt, moved, recorded, recordedAfter, kinds⟩
      · exact .inl destroyed
      · exact .inr (.inl ⟨root, destroyed, inSubtree.imp_right List.contains_iff_mem.mpr⟩)
      · obtain ⟨before, found, rfl⟩ := Option.map_eq_some_iff.mp recorded
        obtain ⟨after, foundAfter, rfl⟩ := Option.map_eq_some_iff.mp recordedAfter
        exact .inr (.inr ⟨parent, scale, before, after, moved, found, foundAfter, kinds⟩)
  · rcases step_eq_ok stepped with rfl | ⟨change, accepted, rfl⟩
    · rfl
    · exact Tree.binding?_of_keepsSurfaces forest accepted rfl id kind

/-- The surfaces of a window are announced, announced again, released by a move under another
window, and one of them is bound anew, twice. -/
def surfaceRun : List TreeEvent :=
  [.create 16 0 Binary32.one false 0,
    .create 17 0 Binary32.one false 0,
    .surfaceAvailable 16 .client 7,
    .surfaceAvailable 16 .whole 8,
    .viewVisibility 16 .client true,
    .reparent 16 17 Binary32.one,
    .surfaceAvailable 16 .client 9,
    .surfaceAvailable 16 .client 10,
    .surfaceDestroyed 17 .whole]

theorem surface_calls_follow_bindings_after_surfaceRun :
    ∃ desk output, (fresh true).run surfaceRun = .ok (desk, output) ∧
      surfaceEntries 16 .client output.calls = [some 7, some 7, none, some 9, some 10] ∧
      (∃ node, desk.tree.node? 16 = some node ∧ node.surfaces.get .client = some 10) ∧
      ∃ (front : List (Option Handle)) (handle : Handle),
        [some 7, some 7] = front ++ [some handle] := by
  have ends : ((fresh true).run surfaceRun).map (fun last =>
      surfaceEntries 16 .client last.2.calls) = .ok [some 7, some 7, none, some 9, some 10] := by
    decide +kernel
  obtain ⟨⟨desk, output⟩, ran, entries⟩ := map_eq_ok.mp ends
  obtain ⟨bound, -, released, -⟩ := surface_calls_follow_bindings ran 16 .client
  refine ⟨desk, output, ran, entries, (bound 10).mp ?_, released [some 7, some 7] _ entries⟩
  rw [entries]
  rfl

end Desk

end WindowRelay
