import WindowRelay.Proofs.Desk.Stepwise
import WindowRelay.Proofs.Tree.Refusals

/-!
Contract: refused events after every run.

Owns:
- an event is refused exactly in the stated cases, and done step by step it then leaves tree and
  host as they were and has sent out nothing.
-/

namespace WindowRelay

namespace Desk

variable {reserveFront : Bool} {events : List TreeEvent} {desk : Desk} {output : Output}

theorem apply_eq_refused {event : TreeEvent} {error : WindowError} :
    desk.apply event = .error (.refused error) ↔
      desk.tree.change desk.scene.hasViews event = .error (.refused error) := by
  unfold apply
  cases desk.tree.change desk.scene.hasViews event <;> simp [Except.map]

/-- Work that ends with a refusal ends where it began. -/
theorem settle_eq_refused {outcome : Except Failure Change} {error : WindowError}
    {state : Desk × Output} :
    desk.settle outcome = .ok (.error error, state) ↔
      outcome = .error (.refused error) ∧ state = (desk, {}) := by
  cases outcome with
  | ok change => simp
  | error cause =>
      cases cause with
      | refused reason => simp [eq_comm]
      | interrupted interruption => simp [settle]

/-- After every run an event is refused exactly in the stated cases. Done step by step, it is
refused then and only then, and leaves the whole desk as it was without a call or a line of the
log. -/
theorem refused_iff_refuses (ran : (fresh reserveFront).run events = .ok (desk, output))
    (event : TreeEvent) :
    ((∃ error, desk.apply event = .error (.refused error)) ↔ desk.tree.Refuses event) ∧
    ∀ error state, desk.attempt event = .ok (.error error, state) ↔
      desk.apply event = .error (.refused error) ∧ state = (desk, {}) := by
  obtain ⟨forest, shows⟩ := shows_of_run ran
  refine ⟨?_, fun error state => ?_⟩
  · simp only [apply_eq_refused]
    exact Tree.refused_iff forest event
  · rw [attempt_eq_settle forest shows, settle_eq_refused, apply_eq_refused]

/-- The test of a desk on which an event is refused for a reason. -/
def refuses (event : TreeEvent) (error : WindowError) (desk : Desk) : Bool :=
  match desk.apply event with
  | .error (.refused reason) => reason = error
  | _ => false

theorem apply_of_refuses {event : TreeEvent} {error : WindowError}
    (test : desk.refuses event error = true) : desk.apply event = .error (.refused error) := by
  unfold refuses at test
  split at test
  · next reason refused => exact of_decide_eq_true test ▸ refused
  · cases test

/-- A window that is to move under its own child stays where it is. -/
theorem refused_after_shortRun :
    ∃ desk output, (fresh true).run shortRun = .ok (desk, output) ∧
      desk.tree.Refuses (.reparent 16 18 Binary32.one) ∧
      desk.attempt (.reparent 16 18 Binary32.one) =
        .ok (.error (.misplaced 16 18 .underDescendant), desk, {}) := by
  have passes : (fresh true).finishes shortRun
      (refuses (.reparent 16 18 Binary32.one) (.misplaced 16 18 .underDescendant)) = true := by
    decide +kernel
  obtain ⟨desk, output, ran, test⟩ := exists_of_finishes passes
  have refused := apply_of_refuses test
  obtain ⟨refusedIff, unchanged⟩ := refused_iff_refuses ran (.reparent 16 18 Binary32.one)
  exact ⟨desk, output, ran, refusedIff.mp ⟨_, refused⟩, (unchanged _ _).mpr ⟨refused, rfl⟩⟩

end Desk

end WindowRelay
