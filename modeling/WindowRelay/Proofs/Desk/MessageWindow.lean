import WindowRelay.Proofs.Desk.Containers
import WindowRelay.Proofs.Since
import WindowRelay.Proofs.Tree.Refusals
import WindowRelay.Proofs.Tree.Stations

/-!
Contract: where the message-only window stands after every run.

Owns:
- the message-only window apart from the desktop: in neither order, and a child if it is there;
- the events that bring it onto the desktop, and those that take it away again;
- it is apart exactly if it was not brought onto the desktop, or taken away since.

Its creation keeps it apart. A move to the top level does not ask which window moves, and neither
does the registration of the desktop window.
-/

namespace WindowRelay

namespace Desk

/-- The desk that some events lead to, beginning without windows. -/
def Reached (reserveFront : Bool) (events : List TreeEvent) (desk : Desk) : Prop :=
  ∃ output, (fresh reserveFront).run events = .ok (desk, output)

/-- The message-only window stands in no order of the desktop, and is a child if it is live. -/
structure Apart (desk : Desk) : Prop where
  unlisted : WindowId.messageOnly ∉ desk.tree.order
  unattached : WindowId.messageOnly ∉ desk.scene.children .desktop
  child : ∀ kind, desk.tree.kind? WindowId.messageOnly = some kind → kind = .child

/-- The message-only window moves from its parent to the top level, or becomes the desktop
window. -/
def Exposes (desk : Desk) (event : TreeEvent) : Prop :=
  (∃ scale, event = .reparent WindowId.messageOnly WindowId.absent scale ∧
    (desk.tree.parent? WindowId.messageOnly).isSome = true) ∨
  (event = .createDesktop WindowId.messageOnly ∧ ¬ desk.tree.Refuses event)

/-- The message-only window goes away, or moves under a parent. -/
def Withdraws (desk : Desk) (event : TreeEvent) : Prop :=
  event = .destroy WindowId.messageOnly ∨
  ∃ parent scale, event = .reparent WindowId.messageOnly parent scale ∧
    parent ≠ WindowId.absent ∧ ¬ desk.tree.Refuses event

variable {reserveFront : Bool} {events : List TreeEvent} {desk next : Desk} {output : Output}
  {event : TreeEvent} {change : Change}

/-- The message-only window is something else than a child. -/
def Prominent (desk : Desk) : Prop :=
  ∃ kind, desk.tree.kind? WindowId.messageOnly = some kind ∧ kind ≠ .child

theorem apart_iff (forest : desk.tree.Forest) (shows : Shows desk.tree desk.scene) :
    desk.Apart ↔ ¬ desk.Prominent := by
  constructor
  · rintro ⟨-, -, child⟩ ⟨kind, isKind, notChild⟩
    exact notChild (child kind isKind)
  · intro modest
    have child : ∀ kind, desk.tree.kind? WindowId.messageOnly = some kind → kind = .child := by
      intro kind isKind
      by_contra notChild
      exact modest ⟨kind, isKind, notChild⟩
    have unlisted : WindowId.messageOnly ∉ desk.tree.order := by
      intro member
      obtain ⟨flag, isTopLevel⟩ := (forest.listed _).mp member
      cases child _ isTopLevel
    exact ⟨unlisted, fun member => unlisted (shows.inStep.sameWindows.mem_iff.mp member), child⟩

/-! ## One step -/

/-- A refused event neither brings the window onto the desktop nor takes it away. -/
theorem not_exposes_of_refuses (forest : desk.tree.Forest) (refuses : desk.tree.Refuses event) :
    ¬ desk.Exposes event ∧ ¬ desk.Withdraws event := by
  constructor
  · rintro (⟨scale, rfl, linked⟩ | ⟨-, granted⟩)
    · obtain ⟨parent, link⟩ := Option.isSome_iff_exists.mp linked
      have live := (forest.isLive_of_child link).1
      rcases refuses with dead | isDesktop | ⟨named, -⟩
      · rw [live] at dead
        cases dead
      · have kind := (forest.desktop _).mp isDesktop
        rw [forest.anchored _ _ kind (by simp)] at link
        cases link
      · exact named rfl
    · exact granted refuses
  · rintro (rfl | ⟨parent, scale, -, -, granted⟩)
    · exact refuses
    · exact granted refuses

/-- An event that brings the window onto the desktop leaves it there. -/
theorem prominent_of_exposes (forest : desk.tree.Forest) (exposes : desk.Exposes event)
    (accepted : desk.tree.change desk.scene.hasViews event = .ok change) :
    (desk.carryOut change).1.Prominent := by
  rcases exposes with ⟨scale, rfl, linked⟩ | ⟨rfl, -⟩
  · refine ⟨.topLevel false, ?_, by simp⟩
    exact (Tree.kind?_reparent_self forest accepted).trans (by rw [if_pos rfl, if_pos linked])
  · refine ⟨.desktop, ?_, by simp⟩
    exact ((Tree.rehomed_createDesktop forest accepted).kinds _).trans (if_pos rfl)

/-- An event that takes the window away leaves it a child, or nothing. -/
theorem not_prominent_of_withdraws (forest : desk.tree.Forest) (withdraws : desk.Withdraws event)
    (accepted : desk.tree.change desk.scene.hasViews event = .ok change) :
    ¬ (desk.carryOut change).1.Prominent := by
  rintro ⟨kind, isKind, notChild⟩
  have isKind : change.tree.kind? WindowId.messageOnly = some kind := isKind
  rcases withdraws with rfl | ⟨parent, scale, rfl, named, -⟩
  · cases accepted
    rw [Tree.kind?_eq_record?, Tree.record?_destroy forest, if_pos (.inl rfl)] at isKind
    cases isKind
  · rw [Tree.kind?_reparent_self forest accepted, if_neg named] at isKind
    exact notChild (Option.some.inj isKind).symm

/-- A window that is on the desktop afterwards was there before, or was brought there. -/
theorem prominent_or_exposes {after : Option Node.Kind} {parent : Option WindowId}
    (station : desk.tree.Stationed WindowId.messageOnly event after parent)
    (granted : ¬ desk.tree.Refuses event) (prominent : ∃ kind, after = some kind ∧ kind ≠ .child) :
    desk.Exposes event ∨ desk.Prominent := by
  obtain ⟨kind, isKind, notChild⟩ := prominent
  cases station with
  | kept => exact .inr ⟨kind, isKind, notChild⟩
  | registered => exact .inl (.inr ⟨rfl, granted⟩)
  | hosted dead named ordinary => exact absurd rfl ordinary
  | born => exact absurd (Option.some.inj isKind).symm notChild
  | risen isChild linked => exact .inl (.inl ⟨_, rfl, linked⟩)
  | adopted => exact absurd (Option.some.inj isKind).symm notChild
  | restacked isTopLevel => exact .inr ⟨_, isTopLevel, by simp⟩
  | went => cases isKind

/-- A window that is on the desktop stays there, or is taken away. -/
theorem prominent_of_not_withdraws {after : Option Node.Kind} {parent : Option WindowId}
    (station : desk.tree.Stationed WindowId.messageOnly event after parent)
    (forest : desk.tree.Forest) (granted : ¬ desk.tree.Refuses event)
    (prominent : desk.Prominent) (stays : ¬ desk.Withdraws event) :
    ∃ kind, after = some kind ∧ kind ≠ .child := by
  obtain ⟨kind, isKind, notChild⟩ := prominent
  have live : desk.tree.isLive WindowId.messageOnly = true := by
    rw [Tree.isLive_eq_kind?, isKind]
    rfl
  cases station with
  | kept => exact ⟨kind, isKind, notChild⟩
  | registered => exact ⟨_, rfl, by simp⟩
  | hosted dead => exact absurd live dead
  | born dead => exact absurd live dead
  | risen => exact ⟨_, rfl, by simp⟩
  | adopted _ named => exact absurd (.inr ⟨_, _, rfl, named, granted⟩) stays
  | restacked => exact ⟨_, rfl, by simp⟩
  | went inSubtree =>
      rcases inSubtree with rfl | isAbove
      · exact absurd (.inl rfl) stays
      · rw [forest.ancestors_of_root (forest.anchored _ kind isKind notChild)] at isAbove
        cases isAbove

/-- One step: the window is on the desktop afterwards if the event brings it there, or if it was
there and the event does not take it away. -/
theorem prominent_of_step (forest : desk.tree.Forest)
    (stepped : desk.step event = .ok (next, output)) :
    next.Prominent ↔ desk.Exposes event ∨ (desk.Prominent ∧ ¬ desk.Withdraws event) := by
  rcases step_outcomes stepped with ⟨refused, rfl, -⟩ | ⟨change, accepted, carriedOut⟩
  · obtain ⟨notExposes, notWithdraws⟩ :=
      not_exposes_of_refuses forest ((Tree.refused_iff forest event).mp refused)
    simp [notExposes, notWithdraws]
  · have granted := Tree.not_refuses_of_change forest accepted
    have station := Tree.stationed_of_change forest accepted WindowId.messageOnly
    obtain rfl : next = (desk.carryOut change).1 := congrArg Prod.fst carriedOut
    constructor
    · intro prominent
      by_cases withdraws : desk.Withdraws event
      · exact absurd prominent (not_prominent_of_withdraws forest withdraws accepted)
      · exact (prominent_or_exposes station granted prominent).imp_right (⟨·, withdraws⟩)
    · rintro (exposes | ⟨prominent, stays⟩)
      · exact prominent_of_exposes forest exposes accepted
      · exact prominent_of_not_withdraws station forest granted prominent stays

/-! ## Runs -/

theorem Reached.unique {other : Desk} (first : Reached reserveFront events desk)
    (second : Reached reserveFront events other) : other = desk := by
  obtain ⟨_, ran⟩ := first
  obtain ⟨_, ranAgain⟩ := second
  cases ran.symm.trans ranAgain
  rfl

/-- After every run the message-only window is apart from the desktop exactly if nothing brought it
there, or something took it away since. -/
theorem message_window_apart_iff (ran : (fresh reserveFront).run events = .ok (desk, output)) :
    desk.Apart ↔ ¬ Since (Reached reserveFront) Exposes Withdraws events := by
  obtain ⟨forest, shows⟩ := shows_of_run ran
  rw [apart_iff forest shows, not_iff_not]
  refine Since.iff_holds (Reached reserveFront) Prominent ?_ ?_ ⟨output, ran⟩
  · rintro start ⟨_, began⟩ ⟨kind, isKind, -⟩
    cases began
    cases isKind
  · rintro earlier event last ⟨_, ranOn⟩
    obtain ⟨middle, before, after, ranEarlier, stepped⟩ := run_concat ranOn
    have reached : Reached reserveFront earlier middle := ⟨before, ranEarlier⟩
    exact ⟨middle, reached, fun other => reached.unique,
      prominent_of_step (shows_of_run ranEarlier).1 stepped⟩

/-- The message-only window comes under a parent and moves from there to the top level. -/
def exposingRun : List TreeEvent :=
  [.create 48 WindowId.absent Binary32.one false 0,
    .create WindowId.messageOnly 48 Binary32.one false 0,
    .reparent WindowId.messageOnly WindowId.absent Binary32.one]

/-- Once it is back under the parent, the window is apart again. -/
theorem message_window_apart_after_exposingRun :
    ∃ desk output,
      (fresh true).run (exposingRun ++ [.reparent WindowId.messageOnly 48 Binary32.one]) =
        .ok (desk, output) ∧
      desk.Apart ∧
      ¬ Since (Reached true) Exposes Withdraws
        (exposingRun ++ [.reparent WindowId.messageOnly 48 Binary32.one]) := by
  have passes : (fresh true).finishes
      (exposingRun ++ [.reparent WindowId.messageOnly 48 Binary32.one])
      (fun desk => WindowId.messageOnly ∉ desk.tree.order ∧
        WindowId.messageOnly ∉ desk.scene.children .desktop ∧
        desk.tree.kind? WindowId.messageOnly = some .child) = true := by
    decide +kernel
  obtain ⟨desk, output, ran, test⟩ := exists_of_finishes passes
  obtain ⟨unlisted, unattached, kindIs⟩ := of_decide_eq_true test
  have apart : desk.Apart :=
    ⟨unlisted, unattached, fun kind isKind => Option.some.inj (isKind.symm.trans kindIs)⟩
  exact ⟨desk, output, ran, apart, (message_window_apart_iff ran).mp apart⟩

/-- A top-level message-only window in both orders of the desktop. -/
theorem message_window_reaches_desktop :
    ∃ desk output, (fresh true).run exposingRun = .ok (desk, output) ∧
      WindowId.messageOnly ∈ desk.tree.order ∧
      WindowId.messageOnly ∈ desk.scene.children .desktop ∧
      desk.tree.kind? WindowId.messageOnly = some (.topLevel false) := by
  have passes : (fresh true).finishes exposingRun
      (fun desk => WindowId.messageOnly ∈ desk.tree.order ∧
        WindowId.messageOnly ∈ desk.scene.children .desktop ∧
        desk.tree.kind? WindowId.messageOnly = some (.topLevel false)) = true := by
    decide +kernel
  obtain ⟨desk, output, ran, test⟩ := exists_of_finishes passes
  exact ⟨desk, output, ran, of_decide_eq_true test⟩

end Desk

end WindowRelay
