import WindowRelay.Proofs.Outcome
import WindowRelay.Tree.Event

/-!
Contract: runs of events on a desk.

Owns:
- a step either carries out the change of its event or leaves the desk as it is;
- what every carried-out change preserves, every run preserves;
- a run in parts;
- one short run that uses every kind of move.
-/

namespace WindowRelay

namespace Desk

variable {desk last : Desk} {output : Output}

/-- A step that does not end the run keeps the desk because its event is refused, or carries out
its change. -/
theorem step_outcomes {event : TreeEvent} {next : Desk}
    (stepped : desk.step event = .ok (next, output)) :
    ((∃ error, desk.tree.change desk.scene.hasViews event = .error (.refused error)) ∧
        next = desk ∧ output = {}) ∨
      ∃ change, desk.tree.change desk.scene.hasViews event = .ok change ∧
        (next, output) = desk.carryOut change := by
  unfold step apply at stepped
  cases outcome : desk.tree.change desk.scene.hasViews event with
  | ok change =>
      rw [outcome] at stepped
      cases stepped
      exact .inr ⟨change, rfl, rfl⟩
  | error cause =>
      rw [outcome] at stepped
      cases cause with
      | refused error =>
          cases stepped
          exact .inl ⟨⟨error, rfl⟩, rfl, rfl⟩
      | interrupted interruption => cases stepped

/-- A step that does not end the run is silent and keeps the desk, or carries out a change. -/
theorem step_cases {event : TreeEvent} {next : Desk}
    (stepped : desk.step event = .ok (next, output)) :
    (next = desk ∧ output = {}) ∨
      ∃ change, desk.tree.change desk.scene.hasViews event = .ok change ∧
        (next, output) = desk.carryOut change :=
  (step_outcomes stepped).imp_left And.right

/-- A step that does not end the run. -/
theorem step_eq_ok {event : TreeEvent} {next : Desk}
    (stepped : desk.step event = .ok (next, output)) :
    next = desk ∨ ∃ change, desk.tree.change desk.scene.hasViews event = .ok change ∧
      next = (desk.carryOut change).1 := by
  rcases step_cases stepped with ⟨rfl, -⟩ | ⟨change, accepted, carriedOut⟩
  · exact .inl rfl
  · exact .inr ⟨change, accepted, congrArg Prod.fst carriedOut⟩

theorem run_cons {event : TreeEvent} {rest : List TreeEvent} :
    desk.run (event :: rest) = .ok (last, output) ↔ ∃ next sent later,
      desk.step event = .ok (next, sent) ∧ next.run rest = .ok (last, later) ∧
        output = sent ++ later := by
  rw [run]
  constructor
  · intro ran
    obtain ⟨⟨next, sent⟩, stepped, remaining⟩ := bind_eq_ok.mp ran
    obtain ⟨⟨final, later⟩, ranRest, finished⟩ := bind_eq_ok.mp remaining
    cases finished
    exact ⟨next, sent, later, stepped, mapError_eq_ok.mp ranRest, rfl⟩
  · rintro ⟨next, sent, later, stepped, ranRest, rfl⟩
    exact bind_eq_ok.mpr ⟨(next, sent), stepped,
      bind_eq_ok.mpr ⟨(last, later), mapError_eq_ok.mpr ranRest, rfl⟩⟩

/-- A refused event keeps the desk, so only carried-out changes have to be looked at. -/
theorem run_preserves {motive : Desk → Prop}
    (preserves : ∀ (desk : Desk) (event : TreeEvent) (change : Change), motive desk →
      desk.tree.change desk.scene.hasViews event = .ok change → motive (desk.carryOut change).1)
    {events : List TreeEvent} (start : motive desk) (ran : desk.run events = .ok (last, output)) :
    motive last := by
  induction events generalizing desk output with
  | nil =>
      cases ran
      exact start
  | cons event rest inductionHypothesis =>
      obtain ⟨next, sent, later, stepped, ranRest, -⟩ := run_cons.mp ran
      have holdsNext : motive next := by
        rcases step_eq_ok stepped with rfl | ⟨change, accepted, rfl⟩
        · exact start
        · exact preserves desk event change start accepted
      exact inductionHypothesis holdsNext ranRest

theorem apply_eq_ok {event : TreeEvent} {next : Desk} {sent : Output} :
    desk.apply event = .ok (next, sent) ↔
      ∃ change, desk.tree.change desk.scene.hasViews event = .ok change ∧
        desk.carryOut change = (next, sent) :=
  map_eq_ok

/-! ## Runs in parts -/

/-- A run that comes to its end has come through every part of it. -/
theorem exists_of_run_append {earlier later : List TreeEvent}
    (ran : desk.run (earlier ++ later) = .ok (last, output)) :
    ∃ middle sent rest, desk.run earlier = .ok (middle, sent) ∧
      middle.run later = .ok (last, rest) := by
  induction earlier generalizing desk output with
  | nil => exact ⟨desk, {}, output, rfl, ran⟩
  | cons event rest inductionHypothesis =>
      obtain ⟨next, sent, remaining, stepped, ranRest, -⟩ := run_cons.mp ran
      obtain ⟨middle, before, after, ranEarlier, ranLater⟩ := inductionHypothesis ranRest
      exact ⟨middle, _, after, run_cons.mpr ⟨next, sent, before, stepped, ranEarlier, rfl⟩,
        ranLater⟩

theorem run_concat {earlier : List TreeEvent} {event : TreeEvent}
    (ran : desk.run (earlier ++ [event]) = .ok (last, output)) :
    ∃ middle before after, desk.run earlier = .ok (middle, before) ∧
      middle.step event = .ok (last, after) := by
  obtain ⟨middle, before, rest, ranEarlier, ranLast⟩ := exists_of_run_append ran
  obtain ⟨next, after, nothing, stepped, ended, -⟩ := run_cons.mp ranLast
  cases ended
  exact ⟨middle, before, after, ranEarlier, stepped⟩

/-! ## A short run -/

/-- The run comes to its end, on a desk that passes a test. -/
def finishes (desk : Desk) (events : List TreeEvent) (test : Desk → Bool) : Bool :=
  match desk.run events with
  | .ok (last, _) => test last
  | .error _ => false

theorem exists_of_finishes {events : List TreeEvent} {test : Desk → Bool}
    (finishes : desk.finishes events test = true) :
    ∃ last output, desk.run events = .ok (last, output) ∧ test last = true := by
  unfold Desk.finishes at finishes
  split at finishes
  · next last output ran => exact ⟨last, output, ran, finishes⟩
  · cases finishes

/-- The event is carried out, with a result that passes a test. -/
def accepts (desk : Desk) (event : TreeEvent) (test : Desk → Output → Bool) : Bool :=
  match desk.apply event with
  | .ok (next, sent) => test next sent
  | .error _ => false

theorem exists_of_accepts {event : TreeEvent} {test : Desk → Output → Bool}
    (accepts : desk.accepts event test = true) :
    ∃ next sent, desk.apply event = .ok (next, sent) ∧ test next sent = true := by
  unfold Desk.accepts at accepts
  split at accepts
  · next next sent applied => exact ⟨next, sent, applied, accepts⟩
  · cases accepts

/-- A placement at the origin. -/
def shortPlacement (insertAfter : UInt32) (style : UInt32) : Placement where
  flags := ⟨0⟩
  insertAfter
  owner := WindowId.absent
  style := ⟨style⟩
  windowRect := Rect.zero
  clientRect := Rect.zero
  visibleRect := Rect.zero

/-- Three top-level windows and four children come, are shown and stacked, and move: one child to
another parent, one to the top level, one top-level window under another. The last move would close
a cycle and is refused. -/
def shortRun : List TreeEvent :=
  [.createDesktop 1,
    .create 16 0 Binary32.one false 0,
    .create 17 0 Binary32.one true 0,
    .create 18 0 Binary32.one false 0,
    .create 32 16 Binary32.one false 0,
    .create 33 16 Binary32.one false 0,
    .create 34 16 Binary32.one false 0,
    .create 35 16 Binary32.one false 0,
    .create WindowId.messageOnly 0 Binary32.one false 0,
    .position 17 (shortPlacement 0xffffffff Style.visible),
    .position 18 (shortPlacement 0 Style.visible),
    .position 16 (shortPlacement 18 Style.visible),
    .position 32 (shortPlacement 0 Style.visible),
    .position 33 (shortPlacement 1 Style.visible),
    .reparent 33 17 Binary32.one,
    .reparent 34 0 Binary32.one,
    .reparent 18 16 Binary32.one,
    .position 18 (shortPlacement 1 Style.visible),
    .reparent 16 18 Binary32.one]

end Desk

end WindowRelay
