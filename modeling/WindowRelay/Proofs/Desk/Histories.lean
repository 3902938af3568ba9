import WindowRelay.Proofs.Desk.Containers
import WindowRelay.Proofs.Desk.Turns

/-!
Contract: what a run has done to one window so far.

Owns:
- an answer about one window that is kept along a run, and replaced by accepted events only;
- what the turns preserve beside such an answer, one event preserves, and with it every run;
- the events that decide anew where the views of a window stand.

The present state of a window does not tell how it came about. Where a property depends on that, the
answer beside it says no more than the property needs.
-/

namespace WindowRelay

/-- How an event changes an answer about a window, seen from the portraits before and after it. -/
abbrev Note (α : Type) := Option Node → TreeEvent → Option Node → Option α

/-- The events that decide anew where the views of a window stand: it comes, it is placed, or its
views are rebuilt for the other kind of window. -/
def TreeEvent.settles (id : WindowId) (event : TreeEvent) (before after : Option Node) : Bool :=
  match event with
  | .create target .. => id == target && before.isNone
  | .position target _ => id == target
  | .reparent target .. => id == target && before.map Node.isTopLevel != after.map Node.isTopLevel
  | _ => false

namespace TreeEvent

variable {id : WindowId} {event : TreeEvent} {before after : Option Node} {node : Node}

theorem settles_of_spared (away : event.touches id = false) :
    event.settles id before after = false := by
  cases event <;> simp_all [touches, settles]

theorem settles_of_accelerates (starts : event.accelerates id = true) :
    event.settles id (some node) after = false := by
  cases event <;> simp_all [accelerates, settles]

theorem accelerates_of_spared (away : event.touches id = false) : event.accelerates id = false := by
  cases event <;> simp_all [touches, accelerates]

theorem settles_reparent (parent : WindowId) (scale : Binary32) (node after : Node) :
    settles id (.reparent id parent scale) (some node) (some after) =
      (node.isTopLevel != after.isTopLevel) := by
  cases isTopLevel : node.isTopLevel <;> cases isTopLevelAfter : after.isTopLevel <;>
    simp [settles, isTopLevel, isTopLevelAfter]

end TreeEvent

namespace Desk

variable {α : Type} {desk last : Desk} {output : Output} {events : List TreeEvent}

/-- The answer after some events, if it was `answer` before them. -/
def remembered (note : Note α) (id : WindowId) (desk : Desk) (answer : α) : List TreeEvent → α
  | [] => answer
  | event :: rest =>
    match desk.apply event with
    | .ok (next, _) =>
      remembered note id next
        ((note (desk.tree.portrait? id) event (next.tree.portrait? id)).getD answer) rest
    | .error _ => remembered note id desk answer rest

/-- What accepted events preserve, beside an answer, every run preserves. -/
theorem run_preserves_remembering {note : Note α} {id : WindowId} {motive : Desk → α → Prop}
    (preserves : ∀ (desk : Desk) (event : TreeEvent) (change : Change) (answer : α),
      motive desk answer → desk.tree.change desk.scene.hasViews event = .ok change →
      motive (desk.carryOut change).1
        ((note (desk.tree.portrait? id) event (change.tree.portrait? id)).getD answer))
    {answer : α} (start : motive desk answer) (ran : desk.run events = .ok (last, output)) :
    motive last (desk.remembered note id answer events) := by
  induction events generalizing desk answer output with
  | nil =>
      cases ran
      exact start
  | cons event rest inductionHypothesis =>
      obtain ⟨next, sent, later, stepped, ranLater, -⟩ := run_cons.mp ran
      unfold remembered apply
      rcases step_outcomes stepped with
        ⟨⟨error, refused⟩, rfl, -⟩ | ⟨change, accepted, carriedOut⟩
      · rw [refused]
        exact inductionHypothesis start ranLater
      · cases carriedOut
        rw [accepted]
        exact inductionHypothesis (preserves desk event change answer start accepted) ranLater

/-- A window has views, and their face is right beside the answer; the desktop window is left
out. -/
def Pictures (holds : Node → View → α → Prop) (id : WindowId) (desk : Desk) (answer : α) : Prop :=
  ∀ node, desk.tree.portrait? id = some node → node.kind ≠ .desktop →
    ∃ face, desk.scene.face? id = some face ∧ holds node face answer

theorem Pictures.exists_view {holds : Node → View → α → Prop} {id : WindowId} {answer : α}
    (pictures : Pictures holds id desk answer) {node : Node}
    (found : desk.tree.node? id = some node) (notDesktop : node.kind ≠ .desktop) :
    ∃ view, desk.scene.view? id = some view ∧ holds node.portrait view.face answer := by
  obtain ⟨face, isFace, holdsFace⟩ := pictures node.portrait (Tree.portrait?_of_node? found)
    (by simpa using notDesktop)
  obtain ⟨view, isView, rfl⟩ := Option.map_eq_some_iff.mp isFace
  exact ⟨view, isView, holdsFace⟩

/-- A property that begins with each new window, and that the turns preserve beside the answer. -/
structure Carried (holds : Node → View → α → Prop) (note : Note α) (id : WindowId) : Prop where
  begins : ∀ {parent scale accelerated process node face} (answer : α), node.surfaces = {} →
    node.Builds face → holds node face
      ((note none (.create id parent scale accelerated process) (some node)).getD answer)
  turns : ∀ {node face event after built} (answer : α), Turn id node face event after built →
    holds node face answer →
    holds after built ((note (some node) event (some after)).getD answer)

variable {holds : Node → View → α → Prop} {note : Note α} {id : WindowId} {answer : α}
  {event : TreeEvent} {change : Change}

/-- What one accepted event does to the picture of a window. -/
theorem Pictures.of_change (carried : Carried holds note id) (forest : desk.tree.Forest)
    (shows : Shows desk.tree desk.scene) (pictures : Pictures holds id desk answer)
    (accepted : desk.tree.change desk.scene.hasViews event = .ok change) :
    Pictures holds id (desk.carryOut change).1
      ((note (desk.tree.portrait? id) event (change.tree.portrait? id)).getD answer) := by
  intro after found notDesktop
  have isAfter : change.tree.portrait? id = some after := found
  have stays : change.tree.isLive id = true := by rw [Tree.isLive_eq_portrait?, isAfter]; rfl
  have notDesktopAfter := fun isDesktop =>
    notDesktop ((Tree.kind?_eq_desktop_iff isAfter).mp isDesktop)
  show ∃ face, (desk.scene.performAll change.commands).face? id = some face ∧ _
  rw [Scene.face?_performAll, isAfter]
  cases former : desk.tree.portrait? id with
  | none =>
      have dead : ¬ desk.tree.isLive id = true := by simp [Tree.isLive_eq_portrait?, former]
      have faceless : desk.scene.face? id = none := by
        have notHosted := shows.hosting.not_hosted dead
        simpa [Scene.hasViews_eq_face?] using notHosted
      obtain ⟨⟨parent, scale, accelerated, process, rfl⟩, node, built, isNode, unbound, isBuilt,
        builds⟩ := Tree.begins_of_change forest shows.hosting dead accepted stays notDesktopAfter
      cases isNode.symm.trans isAfter
      rw [faceless]
      exact ⟨built, isBuilt, carried.begins answer unbound builds⟩
  | some node =>
      have notDesktopBefore : desk.tree.kind? id ≠ some .desktop := fun isDesktop =>
        notDesktopAfter (Tree.isDesktop_of_change forest accepted isDesktop stays)
      obtain ⟨face, isFace, holdsBefore⟩ := pictures node former fun isDesktop =>
        notDesktopBefore ((Tree.kind?_eq_desktop_iff former).mpr isDesktop)
      have isHosted : desk.scene.hasViews id = true := by
        rw [Scene.hasViews_eq_face?, isFace]
        rfl
      obtain ⟨built, isBuilt, turn⟩ := Tree.turns_of_change forest shows.hosting notDesktopBefore
        isHosted accepted node after former isAfter
      rw [isFace]
      exact ⟨built, isBuilt, carried.turns answer turn holdsBefore⟩

/-- What is carried from the beginning of each window holds after every run. -/
theorem pictures_of_run (carried : Carried holds note id) {reserveFront : Bool} (answer : α)
    (ran : (fresh reserveFront).run events = .ok (desk, output)) :
    Pictures holds id desk ((fresh reserveFront).remembered note id answer events) := by
  refine (run_preserves_remembering
    (motive := fun desk answer => (desk.tree.Forest ∧ Shows desk.tree desk.scene) ∧
      Pictures holds id desk answer) ?_
    ⟨⟨Tree.forest_empty, Shows.empty reserveFront⟩, fun node found => by cases found⟩ ran).2
  rintro desk event change answer ⟨⟨forest, shows⟩, pictures⟩ accepted
  exact ⟨⟨forest.ofChange accepted, shows_of_change shows forest accepted⟩,
    pictures.of_change carried forest shows accepted⟩

end Desk

end WindowRelay
