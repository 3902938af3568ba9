import WindowRelay.Proofs.Desk.Structure
import WindowRelay.Proofs.Tree.Repositions
import WindowRelay.Proofs.Tree.Surfaces

/-!
Contract: placements of windows after every run.

Owns:
- an accepted placement stores the geometry of one window, stacks that window if it is asked to,
  and touches nothing else in tree and host.
-/

namespace WindowRelay

namespace Desk

variable {reserveFront : Bool} {events : List TreeEvent} {desk next : Desk} {output sent : Output}
  {id : WindowId} {placement : Placement}

/-- A placement changes the geometry, style and owner of its window, and the stacking as far as it
carries a directive. It sends no call, and of the views of all other windows it changes at most
which windows stand in them. Without a directive, tree and host do not depend on the value that
names the place. -/
theorem position_touches_only (ran : (fresh reserveFront).run events = .ok (desk, output))
    (applied : desk.apply (.position id placement) = .ok (next, sent)) :
    desk.tree.Repositions id placement next.tree ∧
    sent.calls = [] ∧
    (∀ other, other ≠ id → (next.scene.view? other).map (fun view => { view with stack := [] }) =
      (desk.scene.view? other).map fun view => { view with stack := [] }) ∧
    (placement.reorders = false → ∀ insertAfter,
      (desk.apply (.position id { placement with insertAfter })).map Prod.fst = .ok next) := by
  have forest := forest_of_run ran
  have same : placement.reorders = false → ∀ insertAfter,
      desk.apply (.position id { placement with insertAfter }) =
        desk.apply (.position id placement) := fun keeps insertAfter =>
    congrArg (Except.map desk.carryOut) (Tree.position_insertAfter keeps insertAfter)
  obtain ⟨change, accepted, carriedOut⟩ := apply_eq_ok.mp applied
  cases carriedOut
  refine ⟨Tree.repositions_position forest accepted, Tree.calls_position accepted,
    fun other different => ?_, fun keeps insertAfter => ?_⟩
  · exact Scene.bare?_performAll_of_notMem
      (fun member => different (Tree.altered_position forest.stored accepted other member))
      desk.scene
  · rw [same keeps, applied]
    rfl

/-- Two top-level windows, the first one with three children. -/
def repositionRun : List TreeEvent :=
  [.create 16 0 Binary32.one false 0,
    .create 17 0 Binary32.one false 0,
    .create 32 16 Binary32.one false 0,
    .create 33 16 Binary32.one false 0,
    .create 34 16 Binary32.one false 0]

/-- The back-most child is stacked in front of a sibling, the front-most one after a stranger, and
the back-most one is only shown. -/
theorem position_touches_only_after_repositionRun :
    ∃ desk output, (fresh true).run repositionRun = .ok (desk, output) ∧
      desk.tree.children 16 = [32, 33, 34] ∧
      (∃ next sent, desk.apply (.position 32 (shortPlacement 33 Style.visible)) = .ok (next, sent) ∧
        desk.tree.Repositions 32 (shortPlacement 33 Style.visible) next.tree ∧
        next.tree.children 16 = [33, 32, 34]) ∧
      (∃ next sent, desk.apply (.position 34 (shortPlacement 17 Style.visible)) = .ok (next, sent) ∧
        desk.tree.Repositions 34 (shortPlacement 17 Style.visible) next.tree ∧
        next.tree.children 16 = [34, 32, 33]) ∧
      ∃ next sent, desk.apply (.position 32
          { shortPlacement 33 Style.visible with flags := ⟨PositionFlags.noZOrder⟩ }) =
            .ok (next, sent) ∧
        next.tree.children 16 = [32, 33, 34] ∧
        (desk.apply (.position 32
          { shortPlacement 1 Style.visible with flags := ⟨PositionFlags.noZOrder⟩ })).map
            Prod.fst = .ok next := by
  have passes : (fresh true).finishes repositionRun (fun desk =>
      desk.tree.children 16 = [32, 33, 34] ∧
      desk.accepts (.position 32 (shortPlacement 33 Style.visible)) (fun next _ =>
        next.tree.children 16 = [33, 32, 34]) ∧
      desk.accepts (.position 34 (shortPlacement 17 Style.visible)) (fun next _ =>
        next.tree.children 16 = [34, 32, 33]) ∧
      desk.accepts (.position 32
        { shortPlacement 33 Style.visible with flags := ⟨PositionFlags.noZOrder⟩ })
        fun next _ => next.tree.children 16 = [32, 33, 34]) = true := by
    decide +kernel
  obtain ⟨desk, output, ran, passed⟩ := exists_of_finishes passes
  obtain ⟨children, inFront, afterStranger, shown⟩ := of_decide_eq_true passed
  refine ⟨desk, output, ran, children, ?_, ?_, ?_⟩
  · obtain ⟨next, sent, applied, test⟩ := exists_of_accepts inFront
    exact ⟨next, sent, applied, (position_touches_only ran applied).1, of_decide_eq_true test⟩
  · obtain ⟨next, sent, applied, test⟩ := exists_of_accepts afterStranger
    exact ⟨next, sent, applied, (position_touches_only ran applied).1, of_decide_eq_true test⟩
  · obtain ⟨next, sent, applied, test⟩ := exists_of_accepts shown
    obtain ⟨-, -, -, anyPlace⟩ := position_touches_only ran applied
    exact ⟨next, sent, applied, of_decide_eq_true test, anyPlace (by decide) 1⟩

end Desk

end WindowRelay
