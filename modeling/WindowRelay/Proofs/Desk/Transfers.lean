import WindowRelay.Proofs.Desk.Structure
import WindowRelay.Proofs.Tree.Transfers

/-!
Contract: moves of windows after every run.

Owns:
- an accepted move gives one scale to exactly the window and all that descend from it, and changes
  the place of the window alone, if it changes any.
-/

namespace WindowRelay

namespace Desk

variable {reserveFront : Bool} {events : List TreeEvent} {desk next : Desk} {output sent : Output}
  {id parent : WindowId} {scale : Binary32}

/-- A window that moves takes its subtree along: the window and all windows that descend from it.
If it stands already where the move would bring it, only their scale changes. -/
theorem reparent_moves_subtree (ran : (fresh reserveFront).run events = .ok (desk, output))
    (applied : desk.apply (.reparent id parent scale) = .ok (next, sent)) :
    (∀ other, other ∈ desk.tree.subtree id ↔ other = id ∨ desk.tree.Descends id other) ∧
    (desk.tree.Settled id parent → desk.tree.KeepsPlace id scale next.tree sent.calls) ∧
    (¬ desk.tree.Settled id parent →
      desk.tree.ChangesPlace id (Tree.namedParent parent) scale next.tree sent.calls) := by
  have forest := forest_of_run ran
  obtain ⟨change, accepted, carriedOut⟩ := apply_eq_ok.mp applied
  cases carriedOut
  obtain ⟨node, -, found, -⟩ := Tree.reparent_eq_ok accepted
  have live : desk.tree.isLive id = true := Tree.isLive_iff.mpr ⟨node, found⟩
  exact ⟨fun other => Tree.mem_subtree_iff_descends forest live,
    Tree.transfers_reparent forest accepted⟩

/-- Two top-level windows, the first one with two children; one of these has a child of its own, and
a surface. -/
def transferRun : List TreeEvent :=
  [.create 16 0 Binary32.one false 0,
    .create 18 0 Binary32.one false 0,
    .create 17 16 Binary32.one false 0,
    .create 19 16 Binary32.one false 0,
    .create 32 17 Binary32.one false 0,
    .surfaceAvailable 17 .client 10]

/-- The window with the surface moves under the other top-level window, to the top level, and to
where it is. -/
theorem reparent_moves_subtree_after_transferRun :
    ∃ desk output, (fresh true).run transferRun = .ok (desk, output) ∧
      desk.tree.children 16 = [17, 19] ∧ desk.tree.order = [18, 16] ∧
      (∃ next sent, desk.apply (.reparent 17 18 ⟨0x40000000⟩) = .ok (next, sent) ∧
        desk.tree.ChangesPlace 17 (some 18) ⟨0x40000000⟩ next.tree sent.calls ∧
        next.tree.children 16 = [19] ∧ next.tree.children 18 = [17] ∧ sent.calls = []) ∧
      (∃ next sent, desk.apply (.reparent 17 0 ⟨0x40000000⟩) = .ok (next, sent) ∧
        desk.tree.ChangesPlace 17 none ⟨0x40000000⟩ next.tree sent.calls ∧
        next.tree.order = [17, 18, 16] ∧ sent.calls = [.surfaceChanged 17 none true]) ∧
      ∃ next sent, desk.apply (.reparent 17 16 ⟨0x40000000⟩) = .ok (next, sent) ∧
        desk.tree.KeepsPlace 17 ⟨0x40000000⟩ next.tree sent.calls := by
  have passes : (fresh true).finishes transferRun (fun desk =>
      desk.tree.children 16 = [17, 19] ∧ desk.tree.order = [18, 16] ∧
      ¬ desk.tree.Settled 17 18 ∧ ¬ desk.tree.Settled 17 0 ∧ desk.tree.Settled 17 16 ∧
      desk.accepts (.reparent 17 18 ⟨0x40000000⟩) (fun next sent =>
        next.tree.children 16 = [19] ∧ next.tree.children 18 = [17] ∧ sent.calls = []) ∧
      desk.accepts (.reparent 17 0 ⟨0x40000000⟩) (fun next sent =>
        next.tree.order = [17, 18, 16] ∧ sent.calls = [.surfaceChanged 17 none true]) ∧
      desk.accepts (.reparent 17 16 ⟨0x40000000⟩) fun _ _ => true) = true := by
    decide +kernel
  obtain ⟨desk, output, ran, passed⟩ := exists_of_finishes passes
  obtain ⟨children, order, notUnder, notTop, settled, under, toTop, stays⟩ :=
    of_decide_eq_true passed
  refine ⟨desk, output, ran, children, order, ?_, ?_, ?_⟩
  · obtain ⟨next, sent, applied, test⟩ := exists_of_accepts under
    obtain ⟨-, -, changes⟩ := reparent_moves_subtree ran applied
    exact ⟨next, sent, applied, changes notUnder, of_decide_eq_true test⟩
  · obtain ⟨next, sent, applied, test⟩ := exists_of_accepts toTop
    obtain ⟨-, -, changes⟩ := reparent_moves_subtree ran applied
    exact ⟨next, sent, applied, changes notTop, of_decide_eq_true test⟩
  · obtain ⟨next, sent, applied, -⟩ := exists_of_accepts stays
    obtain ⟨-, keeps, -⟩ := reparent_moves_subtree ran applied
    exact ⟨next, sent, applied, keeps settled⟩

end Desk

end WindowRelay
