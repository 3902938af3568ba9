import WindowRelay.Proofs.Desk.Structure
import WindowRelay.Proofs.Tree.Titles

/-!
Contract: the title of the activity after every run.

Owns:
- the host shows the title of the front-most window that gives one;
- a step sets the title once if it becomes another one, and otherwise never.
-/

namespace WindowRelay

namespace Desk

variable {desk : Desk} {output : Output} {events : List TreeEvent} {reserveFront : Bool}

/-- The title that was told last is the front title, and the host shows it. -/
structure Titled (desk : Desk) : Prop where
  upToDate : desk.tree.announced = desk.tree.frontTitle
  shown : desk.scene.title = desk.tree.frontTitle

/-- A change carried out shows the new front title, and sets it only if it is another one. -/
theorem Titled.carryOut (titled : desk.Titled) {change : Change}
    (tells : desk.tree.TellsTitle change) :
    (desk.carryOut change).1.Titled ∧
      (desk.carryOut change).1.scene.titleUpdates = desk.scene.titleUpdates +
        if change.tree.frontTitle = desk.tree.frontTitle then 0 else 1 := by
  obtain ⟨title, updates⟩ := Scene.title_performAll desk.scene change.commands
  rw [tells.titles] at title updates
  have shown : (desk.scene.performAll change.commands).title = change.tree.frontTitle := by
    rw [title]
    split
    · next same =>
        rw [same]
        exact titled.shown
    · rfl
  refine ⟨⟨tells.announced, shown⟩, updates.trans ?_⟩
  split <;> rfl

theorem titled_of_run (ran : (fresh reserveFront).run events = .ok (desk, output)) :
    desk.tree.Forest ∧ desk.Titled := by
  refine run_preserves (motive := fun desk => desk.tree.Forest ∧ desk.Titled) ?_
    ⟨Tree.forest_empty, rfl, rfl⟩ ran
  rintro desk event change ⟨forest, titled⟩ accepted
  have tells := Tree.tellsTitle_of_change forest titled.upToDate accepted
  exact ⟨forest.ofChange accepted, (titled.carryOut tells).1⟩

/-- The host shows the title of the front-most visible unowned titled top-level window, or none if
there is no such window; a step sets the title once if this title is another one afterwards, and
otherwise never. -/
theorem title_follows_front_window
    (ran : (fresh reserveFront).run events = .ok (desk, output)) :
    (∀ title, desk.tree.ShowsTitle title ↔ desk.scene.title = title) ∧
    ∀ event next sent, desk.step event = .ok (next, sent) →
      ∀ before after, desk.tree.ShowsTitle before → next.tree.ShowsTitle after →
        next.scene.titleUpdates = desk.scene.titleUpdates + if after = before then 0 else 1 := by
  obtain ⟨forest, titled⟩ := titled_of_run ran
  constructor
  · intro title
    rw [titled.shown]
    exact Tree.showsTitle_iff
  · intro event next sent stepped before after isBefore isAfter
    rw [← Tree.showsTitle_iff.mp isBefore, ← Tree.showsTitle_iff.mp isAfter]
    rcases step_eq_ok stepped with rfl | ⟨change, accepted, rfl⟩
    · rw [if_pos rfl]
      rfl
    · exact (titled.carryOut (Tree.tellsTitle_of_change forest titled.upToDate accepted)).2

/-- Two windows get a title and are shown, one in front of the other; then the one in front gets an
owner, and the activity takes its title from the other one again. -/
def titleRun : List TreeEvent :=
  [.create 16 0 Binary32.one false 0,
    .create 17 0 Binary32.one false 0,
    .setText 16 "first",
    .setText 17 "second",
    .position 16 (shortPlacement 0 Style.visible),
    .position 17 (shortPlacement 0 Style.visible),
    .focus 17,
    .position 17 { shortPlacement 0 Style.visible with owner := 16 }]

theorem title_follows_front_window_after_titleRun :
    ∃ desk output, (fresh true).run titleRun = .ok (desk, output) ∧
      desk.tree.ShowsTitle (some ⟨"first", none⟩) ∧ desk.scene.titleUpdates = 3 := by
  have passes : (fresh true).finishes titleRun
      (fun desk => desk.scene.title = some ⟨"first", none⟩ ∧ desk.scene.titleUpdates = 3) =
        true := by
    decide +kernel
  obtain ⟨desk, output, ran, passed⟩ := exists_of_finishes passes
  obtain ⟨title, updates⟩ := of_decide_eq_true passed
  exact ⟨desk, output, ran, ((title_follows_front_window ran).1 _).mpr title, updates⟩

end Desk

end WindowRelay
