import WindowRelay.Proofs.Desk.Containers
import WindowRelay.Proofs.Scene.Hiding
import WindowRelay.Proofs.Tree.Commands
import WindowRelay.Proofs.Tree.Records
import WindowRelay.Proofs.Tree.Refusals
import WindowRelay.Proofs.Tree.Stations

/-!
Contract: the windows that the host hides, under events.

Owns:
- the windows that the commands of an event may hide or reveal: none, but for removals, moves and
  the coming and going of the activity;
- the events that hide a window, and those that reveal it or drop its views;
- one step: a window is hidden afterwards if the event hides it, or if it was hidden and the event
  does not reveal it;
- only top-level windows are hidden.

Views of a top-level window that moves under a parent are built anew, and new views are shown. The
tree does not know whether the activity runs, so nothing hides them again.
-/

namespace WindowRelay

namespace Tree

open Scene

variable {tree : Tree} {id other parent : WindowId} {node : Node} {change : Change}
  {hasViews : WindowId → Bool} {commands : List Scene.Command}

/-! ## The windows that commands may hide or reveal -/

section Veiled

variable (tree : Tree) (id : WindowId)

@[simp] theorem veiled_attachCommands : veiled (tree.attachCommands id) = [] :=
  veiled_eq_nil_of_altered (altered_attachCommands tree id)

@[simp] theorem veiled_detachCommands : veiled (tree.detachCommands id) = [] :=
  veiled_eq_nil_of_altered (altered_detachCommands tree id)

@[simp] theorem veiled_reattachCommands : veiled (tree.reattachCommands id) = [] :=
  veiled_eq_nil_of_altered (altered_reattachCommands tree id)

@[simp] theorem veiled_announceCommands : veiled tree.announceCommands = [] :=
  veiled_eq_nil_of_altered (altered_announceCommands tree)

@[simp] theorem veiled_focusCommands (before after : Bool) :
    veiled (focusCommands id before after) = [] := by
  unfold focusCommands
  split <;> rfl

@[simp] theorem veiled_childViewCommands (parent : WindowId) (before after reorders : Bool) :
    veiled (tree.childViewCommands parent id before after reorders) = [] :=
  veiled_eq_nil_of_altered (altered_childViewCommands tree id parent before after reorders)

@[simp] theorem veiled_rebuiltCommands : veiled (tree.rebuiltCommands id) = [] := by
  have accelerated : veiled (tree.acceleratedCommands id) = [] := by
    unfold acceleratedCommands
    split <;> rfl
  simp [rebuiltCommands, accelerated, alignDesktopCommand, Command.veils?]

end Veiled

theorem veiled_topLevelViews (computed : topLevelViews node = .ok commands) :
    veiled commands = [] := by
  obtain ⟨whole, client, -, -, rfl⟩ := topLevelViews_eq_ok computed
  rfl

theorem veiled_childViews (computed : tree.childViews node = .ok commands) :
    veiled commands = [] := by
  obtain ⟨client, whole, -, -, rfl⟩ := childViews_eq_ok computed
  have laidOut : veiled (childLayouts node client whole) = [] := by
    unfold childLayouts
    split <;> rfl
  rw [veiled_cons, veiled_append, laidOut]
  split <;> simp [Command.veils?]

theorem veiled_viewsOfAll {windows : List WindowId}
    (computed : tree.viewsOfAll windows = .ok commands) : veiled commands = [] := by
  induction windows generalizing commands with
  | nil =>
      cases computed
      rfl
  | cons window rest inductionHypothesis =>
      obtain ⟨here, later, ownViews, laterViews, rfl⟩ := viewsOfAll_cons.mp computed
      rw [veiled_append, inductionHypothesis laterViews, List.append_nil]
      unfold viewsOf at ownViews
      split at ownViews
      · exact veiled_childViews ownViews
      · cases ownViews
        rfl

theorem veiled_create {scale : Binary32} {accelerated : Bool} {process : UInt32}
    (created : tree.create hasViews id parent scale accelerated process = .ok change) :
    veiled change.commands = [] := by
  rcases create_eq_ok created with ⟨-, -, rfl⟩ | ⟨-, first, rfl, making⟩
  · rfl
  · have added : veiled first.commands = [] := by
      rcases making with topLevel | ⟨above, -, child⟩
      · obtain ⟨commands, views, rfl⟩ := createTopLevel_eq_ok topLevel
        exact veiled_topLevelViews views
      · obtain ⟨-, commands, views, rfl⟩ := createChild_eq_ok child
        exact veiled_viewsOfAll views
    split
    · rw [Change.followedBy, veiled_append, added]
      rfl
    · exact added

theorem veiled_position {placement : Placement}
    (positioned : tree.position hasViews id placement = .ok change) :
    veiled change.commands = [] := by
  obtain ⟨node, -, ⟨-, rfl⟩ | ⟨-, topLevel⟩ | ⟨-, child⟩⟩ := position_eq_ok positioned
  · rfl
  · obtain ⟨stacked, whole, footprint, notices, -, -, -, rfl⟩ := positionTopLevel_eq_ok topLevel
    simp only [Change.announcing, veiled_append, veiled_cons, veiled_nil, veiled_focusCommands,
      veiled_announceCommands, Command.veils?]
    split <;> rfl
  · obtain ⟨stacked, commands, notices, -, unhosted, hosted, rfl⟩ := positionChild_eq_ok child
    cases views : hasViews node.id with
    | false => simp [unhosted views]
    | true =>
        obtain ⟨whole, footprint, -, -, rfl⟩ := hosted views
        split <;> simp [Command.veils?]

/-! ## Views that are dropped -/

theorem drops_promote (promoted : tree.promote node = .ok change) :
    Drops node.id change.commands := by
  obtain ⟨views, computed, rfl⟩ := promote_eq_ok promoted
  refine ⟨tree.detachCommands node.id, views ++ ((tree.promoted node.id).rebuiltCommands node.id ++
    (tree.promoted node.id).announceCommands), by simp [Change.announcing], by simp, ?_⟩
  simp [veiled_topLevelViews computed]

theorem drops_demote (demoted : tree.demote hasViews node parent = .ok change) :
    Drops node.id change.commands := by
  obtain ⟨views, computed, rfl⟩ := demote_eq_ok demoted
  refine ⟨[.remove .desktop node.id],
    views ++ ((tree.demoted node.id parent).rebuiltCommands node.id ++
      (tree.demoted node.id parent).announceCommands), by simp [Change.announcing], rfl, ?_⟩
  simp [veiled_viewsOfAll computed]

/-- A move between parents keeps the views. -/
theorem veiled_move (wasHosted : hasViews node.id = true)
    (moved : tree.move hasViews node parent = .ok change) : veiled change.commands = [] := by
  obtain ⟨above, here, computed, hereIs, rfl⟩ := move_eq_ok moved
  obtain ⟨whole, -, rfl⟩ := hereIs wasHosted
  have detaching : veiled (if node.visible then tree.detachCommands node.id else []) = [] := by
    split <;> simp
  have attaching : veiled (if node.visible then
      (tree.moved node.id parent).attachCommands node.id else []) = [] := by
    split <;> simp
  simp [detaching, attaching, veiled_viewsOfAll computed, Command.veils?]

theorem drops_destroyOne (live : tree.isLive id = true) :
    Drops id (tree.destroyOne id).commands := by
  obtain ⟨node, found⟩ := isLive_iff.mp live
  simp only [destroyOne, found]
  cases node.kind with
  | topLevel flag => exact ⟨[.remove .desktop id], _, rfl, rfl, veiled_announceCommands _⟩
  | child => exact ⟨tree.detachCommands id, [], rfl, veiled_detachCommands tree id, rfl⟩
  | desktop => exact ⟨[], [], rfl, rfl, rfl⟩

/-- Removals, moves and the activity apart, no event hides or reveals a window. -/
theorem veiled_of_change {event : TreeEvent}
    (accepted : tree.change hasViews event = .ok change)
    (notDestroy : ∀ root, event ≠ .destroy root)
    (notReparent : ∀ id parent scale, event ≠ .reparent id parent scale)
    (notStarted : event ≠ .activityStarted) (notStopped : event ≠ .activityStopped) :
    veiled change.commands = [] := by
  cases event with
  | createDesktop id =>
      obtain ⟨-, -, rfl⟩ := createDesktop_eq_ok accepted
      rfl
  | create id parent scale accelerated process => exact veiled_create accepted
  | startAccelerated id =>
      rw [startAccelerated_eq_ok accepted]
      rfl
  | destroy root => exact absurd rfl (notDestroy root)
  | reparent id parent scale => exact absurd rfl (notReparent id parent scale)
  | position id placement => exact veiled_position accepted
  | focus id =>
      obtain ⟨node, -, focused⟩ := onLive_eq_ok accepted
      split at focused
      · cases focused
        simp [Change.announcing, Command.veils?]
      · cases focused
        rfl
  | setText id text | setIcon id icon =>
      obtain ⟨node, -, changed⟩ := onLive_eq_ok accepted
      cases changed
      unfold announcingIf
      split <;> simp [Change.announcing]
  | surfaceAvailable id kind handle =>
      obtain ⟨node, parking, restoring, -, parked, restored, rfl⟩ :=
        surfaceAvailable_eq_ok accepted
      refine List.filterMap_eq_nil_iff.mpr fun command isCommand => ?_
      obtain ⟨which, rect, rfl⟩ := layouts_of_arrival parked restored command isCommand
      rfl
  | surfaceDestroyed id kind =>
      obtain ⟨node, -, rfl⟩ := surfaceDestroyed_eq_ok accepted
      rfl
  | viewVisibility id kind visible =>
      obtain ⟨node, -, reported⟩ := onLive_eq_ok accepted
      cases reported
      rfl
  | activityStarted => exact absurd rfl notStarted
  | activityStopped => exact absurd rfl notStopped

end Tree

namespace Desk

variable {desk next : Desk} {id : WindowId} {event : TreeEvent} {change : Change} {output : Output}

/-! ## One step -/

/-- The activity goes to the background while this window is a top-level one. -/
def Hides (id : WindowId) (desk : Desk) (event : TreeEvent) : Prop :=
  event = .activityStopped ∧ desk.tree.holds Node.isTopLevel id = true

/-- The activity comes back, or the window goes away, or it moves under a parent. -/
def Reveals (id : WindowId) (desk : Desk) (event : TreeEvent) : Prop :=
  event = .activityStarted ∨ event = .destroy id ∨
    ∃ parent scale, event = .reparent id parent scale ∧ parent ≠ WindowId.absent ∧
      ¬ desk.tree.Refuses event

/-- Only top-level windows are hidden. -/
def HidesTopLevel (desk : Desk) : Prop :=
  ∀ id, desk.scene.hides id = true → desk.tree.holds Node.isTopLevel id = true

theorem mem_order_iff (forest : desk.tree.Forest) :
    id ∈ desk.tree.order ↔ desk.tree.holds Node.isTopLevel id = true :=
  (forest.listed id).trans Tree.holds_isTopLevel_iff.symm

/-- A top-level window has no parent. -/
theorem parentless_of_topLevel (forest : desk.tree.Forest)
    (isTopLevel : desk.tree.holds Node.isTopLevel id = true) : desk.tree.parent? id = none := by
  obtain ⟨flag, kindIs⟩ := Tree.holds_isTopLevel_iff.mp isTopLevel
  exact forest.anchored id _ kindIs (by simp)

/-- Windows without views are not hidden, so a hidden window is live. -/
theorem isLive_of_hides (shows : Shows desk.tree desk.scene)
    (hidden : desk.scene.hides id = true) : desk.tree.isLive id = true :=
  shows.hosting.live id (Scene.hasViews_of_hides hidden)

/-- The removal of a subtree leaves a window hidden exactly if it leaves the window. -/
theorem hides_destroy (forest : desk.tree.Forest) (shows : Shows desk.tree desk.scene)
    (root id : WindowId) :
    (desk.scene.performAll (desk.tree.destroy root).commands).hides id =
      ((desk.tree.destroy root).tree.isLive id && desk.scene.hides id) := by
  refine Tree.destroy_induction forest
    (motive := fun change => (desk.scene.performAll change.commands).hides id =
      (change.tree.isLive id && desk.scene.hides id)) root ?_ ?_
  · cases hidden : desk.scene.hides id with
    | false => simp [hidden]
    | true =>
        have live := isLive_of_hides shows hidden
        simp [hidden, live]
  · intro change window changeForest live childless law
    have rehomed := Tree.rehomed_destroyOne changeForest live childless
    have stays : (change.tree.destroyOne window).tree.isLive id =
        (id != window && change.tree.isLive id) := by
      rw [Tree.isLive_eq_kind?, rehomed.kinds, Tree.isLive_eq_kind?]
      by_cases isWindow : id = window <;> simp [isWindow]
    show (desk.scene.performAll
      (change.commands ++ (change.tree.destroyOne window).commands)).hides id =
        ((change.tree.destroyOne window).tree.isLive id && desk.scene.hides id)
    rw [Scene.performAll_append, (Tree.drops_destroyOne live).hides_performAll, law, stays,
      Bool.and_assoc]

/-- A hidden window goes only if its own removal is asked for. -/
theorem hides_destroy_iff (forest : desk.tree.Forest) (shows : Shows desk.tree desk.scene)
    (only : desk.HidesTopLevel) (root id : WindowId) :
    (desk.scene.performAll (desk.tree.destroy root).commands).hides id = true ↔
      desk.scene.hides id = true ∧ id ≠ root := by
  rw [hides_destroy forest shows, Bool.and_eq_true, and_comm, and_congr_right_iff]
  intro hidden
  have live := isLive_of_hides shows hidden
  have above := forest.ancestors_of_root (parentless_of_topLevel forest (only id hidden))
  simp [Tree.isLive_destroy forest, live, Tree.isBelow, above]

/-- A hidden window that moves under a parent is shown; no other move hides or reveals a window. -/
theorem hides_reparent_iff (forest : desk.tree.Forest) (shows : Shows desk.tree desk.scene)
    (only : desk.HidesTopLevel) {target parent : WindowId} {scale : Binary32}
    (reparented : desk.tree.reparent desk.scene.hasViews target parent scale = .ok change)
    (id : WindowId) :
    (desk.scene.performAll change.commands).hides id = true ↔
      desk.scene.hides id = true ∧ ¬ (id = target ∧ parent ≠ WindowId.absent) := by
  obtain ⟨node, first, found, notDesktop, rfl, moves⟩ := Tree.reparent_cases reparented
  have own : node.id = target := forest.stored target node found
  have shownChild : node.isTopLevel = false → id = target → desk.scene.hides id = false := by
    rintro notTopLevel rfl
    by_contra hidden
    have isTopLevel := only id (by simpa using hidden)
    simp [Tree.holds, found, notTopLevel] at isTopLevel
  rcases moves with ⟨rfl, ⟨-, rfl⟩ | ⟨hasParent, promoted⟩⟩ |
    ⟨named, -, ⟨-, demoted⟩ | ⟨notTopLevel, -, rfl⟩ | ⟨notTopLevel, -, moved⟩⟩
  · simp
  · have isChild := Tree.isChild_of_parent forest found hasParent
    have shown := shownChild (by simp [Node.isTopLevel, isChild])
    rw [(Tree.drops_promote promoted).hides_performAll, own]
    rcases eq_or_ne id target with isTarget | different
    · simp [shown isTarget]
    · simp [different]
  · rw [(Tree.drops_demote demoted).hides_performAll, own, Bool.and_eq_true, and_comm]
    simp [named]
  · by_cases isTarget : id = target
    · simp [shownChild notTopLevel isTarget]
    · simp [isTarget]
  · have isChild := Tree.isChild_of_neither notDesktop notTopLevel
    have wasHosted : desk.scene.hasViews node.id = true := by
      rw [own]
      exact shows.hosting.views target .child (isChild ▸ Tree.kind?_of_node? found) (by simp)
    rw [Scene.hides_performAll_of_notMem (by simp [Tree.veiled_move wasHosted moved])]
    by_cases isTarget : id = target
    · simp [shownChild notTopLevel isTarget]
    · simp [isTarget]

/-- Windows that are hidden are top-level ones, and the activity shows all of these again. -/
theorem hides_activityStarted (forest : desk.tree.Forest) (shows : Shows desk.tree desk.scene)
    (only : desk.HidesTopLevel) (id : WindowId) :
    (desk.scene.performAll desk.tree.activityStarted.commands).hides id = false := by
  rw [Tree.activityStarted, Scene.hides_setShown_all]
  split
  · simp
  · next notListed =>
      by_contra hidden
      rw [Bool.not_eq_false] at hidden
      exact notListed (List.mem_filter.mpr
        ⟨(mem_order_iff forest).mpr (only id hidden), isLive_of_hides shows hidden⟩)

theorem hides_activityStopped_iff (forest : desk.tree.Forest) (shows : Shows desk.tree desk.scene)
    (id : WindowId) :
    (desk.scene.performAll desk.tree.activityStopped.commands).hides id = true ↔
      desk.scene.hides id = true ∨ desk.tree.holds Node.isTopLevel id = true := by
  have hosted : desk.tree.holds Node.isTopLevel id = true → desk.scene.hasViews id = true := by
    intro isTopLevel
    obtain ⟨flag, kindIs⟩ := Tree.holds_isTopLevel_iff.mp isTopLevel
    exact shows.hosting.views id _ kindIs (by simp)
  rw [Tree.activityStopped, Scene.hides_setShown_all]
  split
  · next listed =>
      have isTopLevel := (mem_order_iff forest).mp listed
      simp [isTopLevel, hosted isTopLevel]
  · next notListed =>
      have otherwise : desk.tree.holds Node.isTopLevel id = false := by
        simpa using fun isTopLevel => notListed ((mem_order_iff forest).mpr isTopLevel)
      simp [otherwise]

/-- One event: a window is hidden afterwards if the event hides it, or if it was hidden and the
event does not reveal it. -/
theorem hides_of_change (forest : desk.tree.Forest) (shows : Shows desk.tree desk.scene)
    (only : desk.HidesTopLevel)
    (accepted : desk.tree.change desk.scene.hasViews event = .ok change) (id : WindowId) :
    (desk.carryOut change).1.scene.hides id = true ↔
      desk.Hides id event ∨ (desk.scene.hides id = true ∧ ¬ desk.Reveals id event) := by
  have granted := Tree.not_refuses_of_change forest accepted
  show (desk.scene.performAll change.commands).hides id = true ↔ _
  have others (notDestroy : ∀ root, event ≠ .destroy root)
      (notReparent : ∀ target parent scale, event ≠ .reparent target parent scale)
      (notStarted : event ≠ .activityStarted) (notStopped : event ≠ .activityStopped) :
      (desk.scene.performAll change.commands).hides id = true ↔
        desk.Hides id event ∨ (desk.scene.hides id = true ∧ ¬ desk.Reveals id event) := by
    have mute := Tree.veiled_of_change accepted notDestroy notReparent notStarted notStopped
    rw [Scene.hides_performAll_of_notMem (by simp [mute])]
    simp [Hides, Reveals, notDestroy, notReparent, notStarted, notStopped]
  cases event with
  | destroy root =>
      cases accepted
      have reveals : desk.Reveals id (.destroy root) ↔ id = root := by simp [Reveals, eq_comm]
      rw [hides_destroy_iff forest shows only, reveals]
      simp [Hides]
  | reparent target parent scale =>
      have reveals : desk.Reveals id (.reparent target parent scale) ↔
          id = target ∧ parent ≠ WindowId.absent := by
        simp [Reveals, granted, eq_comm (a := id)]
      rw [hides_reparent_iff forest shows only accepted, reveals]
      simp [Hides]
  | activityStarted =>
      cases accepted
      rw [hides_activityStarted forest shows only]
      simp [Hides, Reveals]
  | activityStopped =>
      cases accepted
      rw [hides_activityStopped_iff forest shows]
      simp [Hides, Reveals, or_comm]
  | _ => exact others nofun nofun nofun nofun

/-- A hidden window stays a top-level one as long as it is hidden. -/
theorem hidesTopLevel_of_change (forest : desk.tree.Forest) (shows : Shows desk.tree desk.scene)
    (only : desk.HidesTopLevel)
    (accepted : desk.tree.change desk.scene.hasViews event = .ok change) :
    (desk.carryOut change).1.HidesTopLevel := by
  intro id hidden
  rcases (hides_of_change forest shows only accepted id).mp hidden with
    ⟨rfl, isTopLevel⟩ | ⟨wasHidden, stays⟩
  · cases accepted
    exact isTopLevel
  · have wasTopLevel := only id wasHidden
    obtain ⟨flag, kindIs⟩ := Tree.holds_isTopLevel_iff.mp wasTopLevel
    have live := isLive_of_hides shows wasHidden
    have station := Tree.stationed_of_change forest accepted id
    show change.tree.holds Node.isTopLevel id = true
    rw [Tree.holds_isTopLevel_iff]
    generalize change.tree.kind? id = kind at station ⊢
    generalize change.tree.parent? id = parent at station
    cases station with
    | kept => exact ⟨flag, kindIs⟩
    | registered _ dead | hosted dead | born dead => exact absurd live dead
    | risen => exact ⟨false, rfl⟩
    | adopted _ named =>
        have granted := Tree.not_refuses_of_change forest accepted
        exact absurd (.inr (.inr ⟨_, _, rfl, named, granted⟩)) stays
    | restacked _ next => exact ⟨next, rfl⟩
    | went inSubtree =>
        rcases inSubtree with rfl | isAbove
        · exact absurd (.inr (.inl rfl)) stays
        · rw [forest.ancestors_of_root (parentless_of_topLevel forest wasTopLevel)] at isAbove
          cases isAbove

/-- The same for a step, whose event may be refused. -/
theorem hides_of_step (forest : desk.tree.Forest) (shows : Shows desk.tree desk.scene)
    (only : desk.HidesTopLevel) (stepped : desk.step event = .ok (next, output)) :
    next.HidesTopLevel ∧ ∀ id, next.scene.hides id = true ↔
      desk.Hides id event ∨ (desk.scene.hides id = true ∧ ¬ desk.Reveals id event) := by
  rcases step_outcomes stepped with ⟨refused, rfl, -⟩ | ⟨change, accepted, carriedOut⟩
  · have refuses := (Tree.refused_iff forest event).mp refused
    refine ⟨only, fun id => ?_⟩
    have notHides : ¬ next.Hides id event := by
      rintro ⟨rfl, -⟩
      exact refuses
    have notReveals : ¬ next.Reveals id event := by
      rintro (rfl | rfl | ⟨parent, scale, -, -, granted⟩)
      · exact refuses
      · exact refuses
      · exact granted refuses
    simp [notHides, notReveals]
  · obtain rfl : next = (desk.carryOut change).1 := congrArg Prod.fst carriedOut
    exact ⟨hidesTopLevel_of_change forest shows only accepted,
      hides_of_change forest shows only accepted⟩

end Desk

end WindowRelay
