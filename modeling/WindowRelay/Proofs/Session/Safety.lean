import WindowRelay.Proofs.Input.Router
import WindowRelay.Proofs.Session.Runs
import WindowRelay.Proofs.Tree.Layouts
import WindowRelay.Session.Relay
import WindowRelay.Wire.Inbound

/-!
Contract: sessions that no task interrupts.

Owns:
- the tasks that a session admits: placements that can be laid out, and moves within the reach of
  the gesture that they go on with;
- a sound session: its windows form a forest and can be laid out, and its router is safe;
- a sound session dispatches every admitted task and stays sound;
- a placement and a move that are not admitted, and the tasks behind them that are interrupted.
-/

namespace WindowRelay

/-- The motion that a task brings. -/
def Task.motion? : Task → Option MotionSample
  | .host (.motion sample) => some sample
  | _ => none

namespace Session

variable {session last : Session} {task : Task} {tasks : List Task} {reaction : Reaction}

/-! ## Admitted tasks -/

/-- The placements of a task can be laid out, and its motion stays within the reach of the gesture
that it goes on with. -/
structure Admits (session : Session) (task : Task) : Prop where
  laysOut : ∀ event ∈ task.treeEvents, event.LaysOut
  follows : ∀ sample ∈ task.motion?, session.router.Follows session.tree sample

instance (session : Session) (task : Task) : Decidable (session.Admits task) :=
  decidable_of_iff
    ((∀ event ∈ task.treeEvents, event.LaysOut) ∧
      ∀ sample ∈ task.motion?, session.router.Follows session.tree sample)
    ⟨fun ⟨laysOut, follows⟩ => ⟨laysOut, follows⟩, fun ⟨laysOut, follows⟩ => ⟨laysOut, follows⟩⟩

/-- Every task of a run is admitted by the session that meets it. -/
def AdmitsAll (session : Session) : List Task → Prop
  | [] => True
  | task :: rest =>
    session.Admits task ∧
      ∀ reaction ∈ (session.dispatch task).toOption, reaction.session.AdmitsAll rest

instance decidableAdmitsAll :
    (session : Session) → (tasks : List Task) → Decidable (session.AdmitsAll tasks)
  | _, [] => isTrue trivial
  | session, task :: rest =>
    have _later := fun reaction : Reaction => decidableAdmitsAll reaction.session rest
    inferInstanceAs (Decidable (session.Admits task ∧
      ∀ reaction ∈ (session.dispatch task).toOption, reaction.session.AdmitsAll rest))

/-! ## Sound sessions -/

/-- The windows form a forest and can be laid out, and the router is safe. -/
structure Sound (session : Session) : Prop where
  forest : session.tree.Forest
  layable : session.tree.Layable
  safe : session.router.Safe

/-- A fresh router is safe if a notch of a wheel can be reported both ways round. -/
theorem safe_fresh {config : Config} {prefixDirectory : Option PrefixDirectory}
    (wheel : config.input.wheelStep ≠ Int32.minValue) :
    (fresh config prefixDirectory).router.Safe where
  wheel := by
    have range := Coordinate.fits_toInt config.input.wheelStep
    have notLowest : config.input.wheelStep.toInt ≠ -2147483648 := fun same =>
      wheel (Int32.toInt_inj.mp same)
    show Coordinate.Fits (-config.input.wheelStep.toInt)
    unfold Coordinate.Fits at range ⊢
    omega
  cancelable window gesture found := by cases found

theorem sound_fresh {config : Config} {prefixDirectory : Option PrefixDirectory}
    (wheel : config.input.wheelStep ≠ Int32.minValue) : (fresh config prefixDirectory).Sound where
  forest := Tree.forest_empty
  layable := Tree.layable_empty
  safe := safe_fresh wheel

/-- An event that is not interrupted is carried out or refused. -/
theorem apply_of_calm {desk : Desk} {event : TreeEvent}
    (calm : Calm (desk.tree.change desk.scene.hasViews event)) :
    (∃ result, desk.apply event = .ok result) ∨
      ∃ error, desk.apply event = .error (.refused error) := by
  unfold Desk.apply
  cases outcome : desk.tree.change desk.scene.hasViews event with
  | ok change => exact .inl ⟨_, rfl⟩
  | error cause =>
      cases cause with
      | refused error => exact .inr ⟨error, rfl⟩
      | interrupted interruption => exact absurd outcome (calm interruption)

theorem succeeds_onDesk {event : TreeEvent} {andThen : Session → List Call}
    (calm : Calm (session.tree.change session.scene.hasViews event)) :
    Succeeds (session.onDesk event andThen) := by
  unfold onDesk
  rcases apply_of_calm calm with ⟨result, applied⟩ | ⟨error, refused⟩
  · rw [applied]
    exact succeeds_ok _
  · rw [refused]
    exact succeeds_ok _

theorem succeeds_withMessageWindow (layable : session.tree.Layable) :
    Succeeds session.withMessageWindow := by
  have calm : Calm (session.desk.tree.change session.desk.scene.hasViews
      (.create WindowId.messageOnly WindowId.absent Binary32.one false 0)) :=
    layable.calm _ trivial
  unfold withMessageWindow Desk.step
  split
  · exact succeeds_ok _
  · rcases apply_of_calm calm with ⟨result, applied⟩ | ⟨error, refused⟩
    · rw [applied]
      exact succeeds_ok _
    · rw [refused]
      exact succeeds_ok _

theorem Sound.succeeds_createDesktop (sound : session.Sound) (window : WindowId)
    (scalingCode : UInt32) : Succeeds (session.createDesktop window scalingCode) := by
  obtain ⟨prepared, preparing⟩ := succeeds_withMessageWindow sound.layable
  have layable : prepared.tree.Layable := by
    rcases withMessageWindow_eq_ok preparing with rfl | ⟨change, accepted, rfl⟩
    · exact sound.layable
    · exact sound.layable.ofChange sound.forest accepted trivial
  have calm : Calm (prepared.desk.tree.change prepared.desk.scene.hasViews
      (.createDesktop window)) :=
    layable.calm _ trivial
  refine succeeds_bind.mpr ⟨prepared, preparing, ?_⟩
  rcases apply_of_calm calm with ⟨result, applied⟩ | ⟨error, refused⟩
  · rw [applied]
    exact succeeds_ok _
  · rw [refused]
    exact succeeds_ok _

/-- A sound session dispatches every task that it admits. -/
theorem Sound.succeeds_dispatch (sound : session.Sound) (admits : session.Admits task) :
    Succeeds (session.dispatch task) := by
  have handled := session.handles task
  generalize outcomeIs : session.dispatch task = outcome at handled
  cases handled with
  | aside => exact succeeds_ok _
  | event events =>
      exact succeeds_onDesk (sound.layable.calm _ (admits.laysOut _ (by simp [events])))
  | destroyWindow window => exact succeeds_ok _
  | createDesktop window scalingCode => exact sound.succeeds_createDesktop window scalingCode
  | motion sample =>
      obtain ⟨routed, moved⟩ :=
        sound.safe.succeeds_motion (admits.follows sample rfl) session.callsOpen
      exact ⟨_, bind_eq_ok.mpr ⟨routed, mapError_eq_ok.mpr moved, rfl⟩⟩

/-- What an admitted task does to the router of a sound session keeps it safe. -/
theorem Sound.safe_of_dispatch (sound : session.Sound) (admits : session.Admits task)
    (dispatched : session.dispatch task = .ok reaction) : reaction.session.router.Safe := by
  rcases router_of_dispatch dispatched with
    ⟨-, same⟩ | ⟨root, -, forgotten⟩ | ⟨sample, routed, rfl, moved, router⟩
  · exact same ▸ sound.safe
  · exact forgotten ▸ sound.safe.forget root
  · exact router ▸ sound.safe.motion (admits.follows sample rfl) moved

/-- A task that a sound session admits leaves it sound. -/
theorem Sound.dispatch (sound : session.Sound) (admits : session.Admits task)
    (dispatched : session.dispatch task = .ok reaction) : reaction.session.Sound := by
  have layable : reaction.session.tree.Layable := by
    refine dispatch_preserves_onForest (motive := Tree.Layable) sound.forest ?_
      (fun _ _ kept => kept) sound.layable dispatched
    exact fun event member tree hasViews change forest layable accepted =>
      layable.ofChange forest accepted (admits.laysOut event member)
  exact ⟨forest_of_dispatch sound.forest dispatched, layable,
    sound.safe_of_dispatch admits dispatched⟩

/-- A run of admitted tasks is not interrupted and leaves a sound session sound. -/
theorem Sound.dispatchAll (sound : session.Sound) (admitted : session.AdmitsAll tasks) :
    ∃ last, session.dispatchAll tasks = .ok last ∧ last.Sound := by
  induction tasks generalizing session with
  | nil => exact ⟨session, rfl, sound⟩
  | cons task rest inductionHypothesis =>
      obtain ⟨admits, later⟩ := admitted
      obtain ⟨reaction, dispatched⟩ := sound.succeeds_dispatch admits
      have reached : reaction.session.AdmitsAll rest := later reaction (by rw [dispatched]; rfl)
      obtain ⟨last, ran, soundLast⟩ :=
        inductionHypothesis (sound.dispatch admits dispatched) reached
      exact ⟨last, dispatchAll_cons.mpr ⟨reaction, dispatched, ran⟩, soundLast⟩

/-! ## Tasks that are not admitted -/

/-- An event that is not refused is carried out, unless it interrupts the session. -/
theorem onDesk_of_granted {event : TreeEvent} {andThen : Session → List Call}
    (applied : session.onDesk event andThen = .ok reaction)
    (granted : Granted (session.tree.change session.scene.hasViews event)) :
    ∃ change, session.tree.change session.scene.hasViews event = .ok change ∧
      reaction.session.tree = change.tree := by
  unfold onDesk Desk.apply at applied
  cases outcome : session.desk.tree.change session.desk.scene.hasViews event with
  | ok change =>
      rw [outcome] at applied
      cases applied
      exact ⟨change, outcome, rfl⟩
  | error cause =>
      rw [outcome] at applied
      cases cause with
      | refused error => exact absurd outcome (granted error)
      | interrupted interruption => cases applied

/-- A placement of a top-level window, a move under another one and a move back lay out the window
in every way. -/
theorem Sound.placeable_of_moves (sound : session.Sound) {window other : WindowId}
    {placement : Placement} {scale : Binary32} {first second third : Reaction}
    (isTopLevel : session.tree.holds Node.isTopLevel window = true)
    (otherTopLevel : session.tree.holds Node.isTopLevel other = true) (different : other ≠ window)
    (notAbsent : other ≠ WindowId.absent) (keepsOrder : placement.flags.reorders = false)
    (positioned : session.onDesk (.position window placement) = .ok first)
    (movedUnder : first.session.onDesk (.reparent window other scale) = .ok second)
    (movedBack : second.session.onDesk (.reparent window WindowId.absent scale) = .ok third) :
    Layout.Placeable placement.clientRect placement.visibleRect placement.style.isVisible := by
  obtain ⟨flag, kindIs⟩ := Tree.holds_isTopLevel_iff.mp isTopLevel
  obtain ⟨node, found, nodeKind⟩ := Option.map_eq_some_iff.mp kindIs
  have nodeTopLevel : node.isTopLevel = true := by simp [Node.isTopLevel, nodeKind]
  -- After the placement both windows are top-level windows still.
  obtain ⟨placing, placed, placedTree⟩ :=
    onDesk_of_granted positioned (Tree.granted_position found nodeTopLevel keepsOrder)
  have forest : placing.tree.Forest := sound.forest.ofChange placed
  have nodes := Tree.position_stores sound.forest found nodeTopLevel keepsOrder placed
  have foundPlaced : placing.tree.node? window = some (node.placed placement) := by
    rw [Tree.node?_congr nodes, Tree.store, Tree.node?_updateNode, if_pos rfl, found]
    rfl
  have admits : placing.tree.Admits window other := by
    obtain ⟨otherFlag, otherKind⟩ := Tree.holds_isTopLevel_iff.mp otherTopLevel
    have stillTopLevel : placing.tree.kind? other = some (.topLevel otherFlag) := by
      rw [Tree.kind?_congr nodes, (Tree.sameOutline_store _ _ _).kind?, otherKind]
    exact Tree.admits_of_topLevel forest different stillTopLevel
  -- Under the other window it is a child with the same rectangles.
  rw [← placedTree] at forest foundPlaced admits
  obtain ⟨moving, under, underTree⟩ := onDesk_of_granted movedUnder
    (Tree.granted_reparent_under foundPlaced nodeTopLevel notAbsent admits scale)
  obtain ⟨child, childFound, childParent, childRecord⟩ :=
    Tree.node?_reparent_under forest foundPlaced nodeTopLevel notAbsent admits under
  rw [← underTree] at childFound
  obtain ⟨returning, back, -⟩ := onDesk_of_granted movedBack
    (Tree.granted_reparent_back childFound (congrArg Node.kind childRecord)
      (by simp [childParent]) scale)
  have layable : (node.placed placement).Layable :=
    Tree.layable_of_moves forest foundPlaced nodeTopLevel notAbsent admits under (underTree ▸ back)
  exact layable

/-- A window is placed, moves under another one, and moves back to the top level. -/
def roundTrip (window other : WindowId) (flags insertAfter : UInt32) (owner : WindowId)
    (style : UInt32) (windowRect clientRect visibleRect : Rect) (scale : Binary32)
    (process : UInt32) : List Task :=
  [.manager (.setPosition window flags insertAfter owner style windowRect clientRect visibleRect),
    .manager (.setParent window other scale process),
    .manager (.setParent window WindowId.absent scale process)]

section RoundTrip

variable {window other : WindowId} {flags insertAfter : UInt32} {owner : WindowId} {style : UInt32}
  {windowRect clientRect visibleRect : Rect} {scale : Binary32} {process : UInt32}

theorem admitsAll_roundTrip
    (placeable : Layout.Placeable clientRect visibleRect (Style.ofRaw style).isVisible) :
    session.AdmitsAll (roundTrip window other flags insertAfter owner style windowRect clientRect
      visibleRect scale process) := by
  have placed : session.Admits (.manager (.setPosition window flags insertAfter owner style
      windowRect clientRect visibleRect)) :=
    { laysOut := fun event member => by
        obtain rfl := List.mem_singleton.mp member
        exact placeable
      follows := fun sample noMotion => by cases noMotion }
  have moved : ∀ (between : Session) (parent : WindowId),
      between.Admits (.manager (.setParent window parent scale process)) := fun _ _ =>
    { laysOut := fun event member => by
        obtain rfl := List.mem_singleton.mp member
        trivial
      follows := fun sample noMotion => by cases noMotion }
  exact ⟨placed, fun first _ => ⟨moved first.session other, fun second _ =>
    ⟨moved second.session WindowId.absent, fun _ _ => trivial⟩⟩⟩

/-- The round trip of a top-level window is not interrupted exactly if its placement can be laid
out. -/
theorem Sound.succeeds_roundTrip_iff (sound : session.Sound)
    (isTopLevel : session.tree.holds Node.isTopLevel window = true)
    (otherTopLevel : session.tree.holds Node.isTopLevel other = true) (different : other ≠ window)
    (notAbsent : other ≠ WindowId.absent)
    (keepsOrder : (PositionFlags.ofRaw flags).reorders = false) :
    Succeeds (session.dispatchAll (roundTrip window other flags insertAfter owner style windowRect
        clientRect visibleRect scale process)) ↔
      Layout.Placeable clientRect visibleRect (Style.ofRaw style).isVisible := by
  constructor
  · rintro ⟨last, ran⟩
    obtain ⟨first, dispatched, rest⟩ := dispatchAll_cons.mp ran
    obtain ⟨second, movedUnder, rest⟩ := dispatchAll_cons.mp rest
    obtain ⟨third, movedBack, -⟩ := dispatchAll_cons.mp rest
    exact sound.placeable_of_moves isTopLevel otherTopLevel different notAbsent keepsOrder
      dispatched movedUnder movedBack
  · intro placeable
    obtain ⟨last, ran, -⟩ := sound.dispatchAll (admitsAll_roundTrip placeable)
    exact ⟨last, ran⟩

end RoundTrip

/-- A move on a gesture succeeds together with the cancellation behind it exactly if it is within
the reach of the gesture. -/
theorem succeeds_scroll_iff {sample : MotionSample} {node : Node} {gesture : Gesture}
    (scrolls : session.router.Scrolls session.tree sample node gesture) :
    Succeeds (session.dispatchAll
        [.host (.motion sample), .host (.motion (Router.cancelling sample))]) ↔
      gesture.Reaches (Router.position node sample session.tree.dpiScale).1
        (Router.position node sample session.tree.dpiScale).2 := by
  constructor
  · rintro ⟨last, ran⟩
    obtain ⟨reaction, dispatched, rest⟩ := dispatchAll_cons.mp ran
    obtain ⟨next, cancelled, -⟩ := dispatchAll_cons.mp rest
    obtain ⟨routed, moved, tree, router⟩ := motion_eq_ok dispatched
    obtain ⟨ended, movedNext, -, -⟩ := motion_eq_ok cancelled
    rw [tree, router] at movedNext
    exact (scrolls.succeeds_iff session.callsOpen reaction.session.callsOpen).mp
      ⟨routed, moved, ended, movedNext⟩
  · intro reaches
    obtain ⟨routed, moved, ended, movedNext⟩ :=
      (scrolls.succeeds_iff session.callsOpen session.callsOpen).mpr reaches
    exact ⟨_, dispatchAll_cons.mpr ⟨_, bind_eq_ok.mpr ⟨routed, mapError_eq_ok.mpr moved, rfl⟩,
      dispatchAll_cons.mpr ⟨_, bind_eq_ok.mpr ⟨ended, mapError_eq_ok.mpr movedNext, rfl⟩, rfl⟩⟩⟩

/-! ## Runs of admitted tasks -/

/-- A run of admitted tasks is not interrupted, and no message is that the session admits behind
it. What is asked of placements and moves is sharp: the round trip of a top-level window is
interrupted unless its placement can be laid out, and a move with the cancellation behind it unless
the move is within reach. -/
theorem admitted_messages_dispatched {config : Config} {prefixDirectory : Option PrefixDirectory}
    (wheel : config.input.wheelStep ≠ Int32.minValue)
    (admitted : (fresh config prefixDirectory).AdmitsAll tasks) :
    ∃ last, (fresh config prefixDirectory).dispatchAll tasks = .ok last ∧
      (∀ message, last.Admits (Relay.taskOf message) →
        ∃ reaction, last.dispatch (Relay.taskOf message) = .ok reaction) ∧
      (∀ window other flags insertAfter owner style windowRect clientRect visibleRect scale process,
        last.tree.holds Node.isTopLevel window = true →
        last.tree.holds Node.isTopLevel other = true → other ≠ window →
        other ≠ WindowId.absent → (PositionFlags.ofRaw flags).reorders = false →
        ((∃ final, last.dispatchAll (roundTrip window other flags insertAfter owner style windowRect
            clientRect visibleRect scale process) = .ok final) ↔
          Layout.Placeable clientRect visibleRect (Style.ofRaw style).isVisible)) ∧
      ∀ sample node gesture, last.router.Scrolls last.tree sample node gesture →
        ((∃ final, last.dispatchAll
            [.host (.motion sample), .host (.motion (Router.cancelling sample))] = .ok final) ↔
          gesture.Reaches (Router.position node sample last.tree.dpiScale).1
            (Router.position node sample last.tree.dpiScale).2) := by
  have start : (fresh config prefixDirectory).Sound := sound_fresh wheel
  obtain ⟨last, ran, sound⟩ := start.dispatchAll admitted
  refine ⟨last, ran, fun message admits => sound.succeeds_dispatch admits, ?_,
    fun sample node gesture scrolls => succeeds_scroll_iff scrolls⟩
  intro window other flags insertAfter owner style windowRect clientRect visibleRect scale process
    isTopLevel otherTopLevel different notAbsent keepsOrder
  exact sound.succeeds_roundTrip_iff isTopLevel otherTopLevel different notAbsent keepsOrder

/-- The placement of a window without a directive, with one rectangle for everything. -/
def simplePlacement (window : WindowId) (style : UInt32) (rect : Rect) : ManagerEvent :=
  .setPosition window 4 0 WindowId.absent style rect rect rect

/-- Two windows come, the hidden one is placed, and a scroll starts on the other one. -/
def placingRun : List Task :=
  [.manager (.createWindow 48 false WindowId.absent Binary32.one 7),
    .manager (.createWindow 49 false WindowId.absent Binary32.one 7),
    .manager (simplePlacement 48 0 ⟨10, 10, 110, 60⟩),
    .host (mouseMotion 49 .down 10 10),
    .host (mouseMotion 49 .move 14 12)]

/-- A rectangle at the left end of the coordinates. -/
def leftmost : Rect := ⟨Int32.minValue, 0, Int32.minValue + 100, 100⟩

theorem admitted_messages_dispatched_after_placingRun :
    ∃ last, (fresh {} none).dispatchAll placingRun = .ok last ∧
      (∃ reaction, last.dispatch (.host (mouseMotion 49 .cancel 14 12)) = .ok reaction) ∧
      ¬ ∃ final, last.dispatchAll (roundTrip 48 49 4 0 WindowId.absent 0x10000000 leftmost leftmost
        leftmost Binary32.one 7) = .ok final := by
  have ends : ((fresh {} none).dispatchAll placingRun).map (fun last =>
      (decide (last.Admits (.host (mouseMotion 49 .cancel 14 12))),
        last.tree.holds Node.isTopLevel 48, last.tree.holds Node.isTopLevel 49)) =
      .ok (true, true, true) := by
    decide +kernel
  have admitted : (fresh {} none).AdmitsAll placingRun := by decide +kernel
  obtain ⟨last, ran, messages, trips, -⟩ := admitted_messages_dispatched (by decide) admitted
  obtain ⟨reached, again, facts⟩ := map_eq_ok.mp ends
  cases ran.symm.trans again
  simp only [Prod.mk.injEq, decide_eq_true_eq] at facts
  refine ⟨last, ran, messages (.host (mouseMotion 49 .cancel 14 12)) facts.1, fun final => ?_⟩
  have placeable := (trips 48 49 4 0 WindowId.absent 0x10000000 leftmost leftmost leftmost
    Binary32.one 7 facts.2.1 facts.2.2 (by decide) (by decide) (by decide)).mp final
  revert placeable
  decide

/-- A placement at the left end of the coordinates is read from its written form, and interrupts the
session: the left end has no negation. -/
theorem leftmost_placement_interrupts :
    Wire.decodeInbound? (Wire.encodeInbound (.manager (simplePlacement 48 0x10000000 leftmost))) =
        some (.manager (simplePlacement 48 0x10000000 leftmost)) ∧
      (fresh {} none).dispatchAll
        [.manager (.createWindow 48 false WindowId.absent Binary32.one 7),
          Relay.taskOf (.manager (simplePlacement 48 0x10000000 leftmost))] =
        .error { cause := .negation } := by
  constructor <;> decide +kernel

end Session

end WindowRelay
