import Mathlib.Logic.Relation
import WindowRelay.Proofs.Tree.Position
import WindowRelay.Proofs.Tree.Reparent
import WindowRelay.Tree.Event

/-!
Contract: the events that are refused.

Owns:
- descent along child lists, which is what the walk to the ancestors looks for;
- the refused events, case by case;
- an event is refused exactly in these cases, whatever views there are.

Whether a layout leaves the coordinates does not matter here: that interrupts an event and refuses
none.
-/

namespace WindowRelay

namespace Tree

variable {tree : Tree} {id parent : WindowId} {hasViews : WindowId → Bool}

/-! ## Descent -/

/-- A window is a child of another one, or of a window that descends from it. -/
def Descends (tree : Tree) (ancestor : WindowId) : WindowId → Prop :=
  Relation.TransGen (fun above below => below ∈ tree.children above) ancestor

/-- The windows above a window are those from which it descends. -/
theorem mem_ancestors_iff (forest : tree.Forest) {ancestor : WindowId} :
    ancestor ∈ tree.ancestors id ↔ tree.Descends ancestor id := by
  constructor
  · intro isAbove
    have ascent := forest.ascent_ancestors id
    generalize tree.ancestors id = chain at ascent isAbove
    induction ascent with
    | root => cases isAbove
    | @step window parent rest link _ inductionHypothesis =>
        have listed := (forest.links.linked window parent).mp link
        rcases List.mem_cons.mp isAbove with isParent | inRest
        · exact isParent ▸ .single listed
        · exact .tail (inductionHypothesis inRest) listed
  · intro descends
    induction descends with
    | single listed =>
        rw [forest.ancestors_of_parent? ((forest.links.linked _ _).mpr listed)]
        exact List.mem_cons_self
    | tail _ listed inductionHypothesis =>
        rw [forest.ancestors_of_parent? ((forest.links.linked _ _).mpr listed)]
        exact List.mem_cons_of_mem _ inductionHypothesis

theorem isLive_of_descends (forest : tree.Forest) {ancestor : WindowId}
    (descends : tree.Descends ancestor id) : tree.isLive id = true := by
  cases descends with
  | single listed | tail _ listed =>
      exact (forest.isLive_of_child ((forest.links.linked _ _).mpr listed)).1

theorem isBelow_iff_descends (forest : tree.Forest) {ancestor : WindowId} :
    tree.isBelow id ancestor = true ↔ tree.Descends ancestor id :=
  List.contains_iff_mem.trans (mem_ancestors_iff forest)

/-! ## The cases -/

/-- The events that are refused. -/
def Refuses (tree : Tree) : TreeEvent → Prop
  | .createDesktop id => tree.desktop.isSome = true ∨ tree.isLive id = true
  | .create id parent _ accelerated _ =>
    id = WindowId.absent ∨
      (tree.isLive id = true ∧ accelerated = false) ∨
      (tree.isLive id = false ∧ parent ≠ WindowId.absent ∧ tree.isLive parent = false)
  | .reparent id parent _ =>
    tree.isLive id = false ∨ tree.desktop = some id ∨
      (parent ≠ WindowId.absent ∧
        (parent = id ∨ tree.isLive parent = false ∨ tree.Descends id parent))
  | .position id placement =>
    tree.isLive id = false ∨ (placement.reorders = true ∧ placement.directive = .after id)
  | .startAccelerated id | .focus id | .setText id _ | .setIcon id _ | .surfaceAvailable id _ _
  | .surfaceDestroyed id _ | .viewVisibility id _ _ => tree.isLive id = false
  | .destroy _ | .activityStarted | .activityStopped => False

/-- The work is refused. -/
def Refused (outcome : Except Failure Change) : Prop :=
  ∃ error, outcome = .error (.refused error)

theorem refused_error (error : WindowError) : Refused (.error (.refused error)) := ⟨error, rfl⟩

theorem not_refused_iff {outcome : Except Failure Change} : ¬ Refused outcome ↔ Granted outcome := by
  unfold Refused Granted
  push Not
  rfl

/-- Work that is refused in some cases and granted in all others. -/
theorem refused_iff_of {outcome : Except Failure Change} {cases : Prop}
    (refused : cases → Refused outcome) (granted : ¬ cases → Granted outcome) :
    Refused outcome ↔ cases :=
  ⟨fun isRefused => by_contra fun otherwise => not_refused_iff.mpr (granted otherwise) isRefused,
    refused⟩

/-! ## Windows that come -/

theorem refused_createDesktop_iff :
    Refused (tree.createDesktop id) ↔ tree.Refuses (.createDesktop id) := by
  apply refused_iff_of
  · rintro (registered | live)
    · exact ⟨.desktopAlreadyCreated, by simp [createDesktop, registered]⟩
    · by_cases registered : tree.desktop.isSome = true
      · exact ⟨.desktopAlreadyCreated, by simp [createDesktop, registered]⟩
      · exact ⟨.alreadyExists id, by simp [createDesktop, registered, live]⟩
  · intro otherwise
    obtain ⟨notRegistered, dead⟩ := not_or.mp otherwise
    simp only [createDesktop, if_neg notRegistered, if_neg dead]
    exact granted_ok _

theorem refused_startAccelerated_iff :
    Refused (tree.startAccelerated id) ↔ tree.Refuses (.startAccelerated id) := by
  unfold startAccelerated
  apply refused_iff_of
  · intro dead
    rw [if_neg (by simp [show tree.isLive id = false from dead])]
    exact refused_error _
  · intro live
    rw [if_pos (by simpa [Refuses] using live)]
    exact granted_ok _

theorem granted_createTopLevel (scale : Binary32) (process : UInt32) :
    Granted (tree.createTopLevel id scale process) :=
  granted_bind (granted_liftOverflow _) fun _ => granted_ok _

theorem granted_createChild {parent : Option WindowId} {scale : Binary32} {process : UInt32}
    (live : ∀ above, parent = some above → tree.isLive above = true) :
    Granted (tree.createChild hasViews id parent scale process) := by
  have views : ∀ linked : Tree, Granted (do
      let commands ← linked.ensureViews hasViews id
      pure { tree := linked, commands : Change }) := fun linked =>
    granted_bind (granted_liftOverflow _) fun _ => granted_ok _
  unfold createChild
  cases parent with
  | none => exact views _
  | some above =>
      simp only [live above rfl, if_true]
      exact views _

theorem refused_createChild {scale : Binary32} {process : UInt32}
    (dead : tree.isLive parent = false) :
    tree.createChild hasViews id (some parent) scale process =
      .error (.refused (.unknownParent id parent)) := by
  simp only [createChild, dead, Bool.false_eq_true, if_false]
  rfl

theorem refused_create_iff {scale : Binary32} {accelerated : Bool} {process : UInt32} :
    Refused (tree.create hasViews id parent scale accelerated process) ↔
      tree.Refuses (.create id parent scale accelerated process) := by
  unfold create
  by_cases reserved : id = WindowId.absent
  · rw [if_pos reserved]
    exact iff_of_true (refused_error _) (.inl reserved)
  rw [if_neg reserved]
  by_cases live : tree.isLive id = true
  · rw [if_pos live]
    cases accelerated with
    | true =>
        refine iff_of_false (not_refused_iff.mpr (granted_ok _)) ?_
        simp [Refuses, reserved, live]
    | false => exact iff_of_true (refused_error _) (.inr (.inl ⟨live, rfl⟩))
  rw [if_neg live]
  by_cases topLevel : (decide (parent = WindowId.absent) && id != WindowId.messageOnly) = true
  · simp only [if_pos topLevel]
    have isAbsent : parent = WindowId.absent :=
      of_decide_eq_true (Bool.and_eq_true_iff.mp topLevel).1
    refine iff_of_false (not_refused_iff.mpr ?_) (by simp [Refuses, reserved, live, isAbsent])
    exact granted_bind (granted_createTopLevel scale process) fun _ => granted_ok _
  simp only [if_neg topLevel]
  by_cases orphan : parent ≠ WindowId.absent ∧ tree.isLive parent = false
  · rw [if_neg orphan.1, refused_createChild orphan.2]
    exact iff_of_true (refused_error _) (.inr (.inr ⟨by simpa using live, orphan⟩))
  · refine iff_of_false (not_refused_iff.mpr ?_) (by simp [Refuses, reserved, live, orphan])
    refine granted_bind (granted_createChild ?_) fun _ => granted_ok _
    intro above isAbove
    split at isAbove
    · cases isAbove
    · next notAbsent =>
        cases isAbove
        by_contra dead
        exact orphan ⟨notAbsent, by simpa using dead⟩

/-! ## Windows that move -/

theorem granted_demote (node : Node) : Granted (tree.demote hasViews node parent) :=
  granted_bind (granted_liftInterruption _) fun _ => granted_ok _

theorem granted_promote (node : Node) : Granted (tree.promote node) :=
  granted_bind (granted_liftInterruption _) fun _ => granted_ok _

theorem granted_move (node : Node) : Granted (tree.move hasViews node parent) := by
  refine granted_bind (granted_liftOverflow _) fun above => ?_
  dsimp only
  split
  · exact granted_bind (granted_liftOverflow _) fun _ => granted_ok _
  · exact granted_bind (granted_liftOverflow _) fun _ => granted_ok _

/-- A move has a reason to be refused in the stated cases only. -/
theorem isSome_moveRefusal_iff (forest : tree.Forest) (scale : Binary32) :
    (tree.moveRefusal id parent).isSome = true ↔ tree.Refuses (.reparent id parent scale) := by
  unfold moveRefusal
  simp only [Refuses]
  cases found : tree.node? id with
  | none => simp [isLive_eq_false_iff.mpr found]
  | some node =>
      have live : tree.isLive id = true := isLive_iff.mpr ⟨node, found⟩
      have isDesktop : tree.desktop = some id ↔ node.kind = .desktop := by
        rw [forest.desktop, kind?_of_node? found, Option.some.injEq]
      rw [isDesktop, ← isBelow_iff_descends forest]
      simp only [live, Bool.true_eq_false, false_or]
      split
      · next fixed => simp [fixed]
      · next movable =>
          split
          · next isAbsent => simp [movable, isAbsent]
          · next notAbsent =>
              split
              · next own => simp [own, own ▸ notAbsent]
              · next other =>
                  split
                  · next dead =>
                      have deadParent : tree.isLive parent = false := by simpa using dead
                      simp [notAbsent, deadParent]
                  · next parentLive =>
                      have liveParent : tree.isLive parent = true := by simpa using parentLive
                      split
                      · next below => simp [notAbsent, below]
                      · next notBelow => simp [movable, other, liveParent, notBelow]

theorem refused_reparent_iff (forest : tree.Forest) {scale : Binary32} :
    Refused (tree.reparent hasViews id parent scale) ↔
      tree.Refuses (.reparent id parent scale) := by
  rw [← isSome_moveRefusal_iff forest]
  unfold reparent
  cases refusal : tree.moveRefusal id parent with
  | some error => exact iff_of_true (refused_error error) rfl
  | none =>
      refine iff_of_false (not_refused_iff.mpr ?_) (by simp)
      obtain ⟨node, found, -, -⟩ := moveRefusal_eq_none refusal
      simp only [found]
      split
      · split
        · exact granted_bind (granted_promote node) fun _ => granted_ok _
        · exact granted_ok _
      · split
        · exact granted_bind (granted_demote node) fun _ => granted_ok _
        · split
          · exact granted_ok _
          · exact granted_bind (granted_move node) fun _ => granted_ok _

/-! ## Placements -/

theorem granted_positionTopLevel {node : Node} {placement : Placement}
    (found : tree.node? node.id = some node)
    (notSelf : ¬ (placement.reorders = true ∧ placement.directive = .after node.id)) :
    Granted (tree.positionTopLevel node placement) := by
  have live : (tree.store node.id placement).isLive node.id = true :=
    isLive_iff.mpr ⟨_, node?_store_self found⟩
  refine granted_bind (granted_liftOverflow _) fun _ => ?_
  refine granted_bind (granted_liftOverflow _) fun _ => ?_
  refine granted_bind (granted_liftOverflow _) fun _ => ?_
  dsimp only
  split
  · next reorders =>
      have stacking := succeeds_restack live fun self => notSelf ⟨reorders, self⟩
      exact granted_bind (granted_liftRefusal stacking) fun _ => granted_ok _
  · exact granted_ok _

/-- The views of a child follow its placement, however the child was stacked. -/
private theorem granted_childPlacement (stacked : Tree) (node : Node) (placement : Placement)
    (client : Rect) (notices : List Notice) :
    Granted (show Except Failure Change from
      if hasViews node.id then do
        let inParent ←
          match node.parent with
          | none => pure []
          | some parent =>
            let whole ← Layout.padded (node.placed placement).visibleRect
            pure (.layout node.id .whole whole ::
              stacked.childViewCommands parent node.id node.visible
                (node.placed placement).visible placement.reorders)
        let footprint ← Layout.padded client
        pure
          { tree := stacked
            commands := inParent ++ [.layout node.id .client footprint]
            notices }
      else
        pure { tree := stacked, notices }) := by
  dsimp only
  split
  · cases node.parent with
    | none =>
        refine granted_bind (granted_ok _) fun _ => ?_
        exact granted_bind (granted_liftOverflow _) fun _ => granted_ok _
    | some above =>
        refine granted_bind (granted_liftOverflow _) fun _ => ?_
        refine granted_bind (granted_ok _) fun _ => ?_
        exact granted_bind (granted_liftOverflow _) fun _ => granted_ok _
  · exact granted_ok _

theorem granted_positionChild {node : Node} {placement : Placement}
    (found : tree.node? node.id = some node)
    (notSelf : ¬ (placement.reorders = true ∧ placement.directive = .after node.id)) :
    Granted (tree.positionChild hasViews node placement) := by
  have live : (tree.store node.id placement).isLive node.id = true :=
    isLive_iff.mpr ⟨_, node?_store_self found⟩
  refine granted_bind (granted_liftOverflow _) fun client => ?_
  dsimp only
  split
  · next reorders =>
      have stacking := succeeds_restackChild live fun self =>
        notSelf ⟨(Bool.and_eq_true_iff.mp reorders).1, self⟩
      exact granted_bind (granted_liftRefusal stacking) fun _ =>
        granted_childPlacement _ node placement client _
  · exact granted_bind (granted_ok _) fun _ => granted_childPlacement _ node placement client _

theorem refused_position_iff (forest : tree.Forest) {placement : Placement} :
    Refused (tree.position hasViews id placement) ↔ tree.Refuses (.position id placement) := by
  unfold position
  simp only [Refuses]
  cases found : tree.node? id with
  | none => exact iff_of_true (refused_error _) (.inl (isLive_eq_false_iff.mpr found))
  | some node =>
      have live : tree.isLive id = true := isLive_iff.mpr ⟨node, found⟩
      have own : node.id = id := forest.stored id node found
      subst own
      by_cases self : placement.reorders = true ∧ placement.directive = .after node.id
      · dsimp only
        rw [if_pos (by simpa using self)]
        exact iff_of_true (refused_error _) (.inr self)
      · refine iff_of_false (not_refused_iff.mpr ?_) (by simp [live, self])
        dsimp only
        rw [if_neg (by simpa using self)]
        cases node.kind with
        | desktop => exact granted_ok _
        | topLevel flag => exact granted_positionTopLevel found self
        | child => exact granted_positionChild found self

/-! ## Attributes -/

theorem refused_onLive_iff {changed : Node → Except Failure Change}
    (granted : ∀ node, Granted (changed node)) :
    Refused (tree.onLive id changed) ↔ tree.isLive id = false := by
  unfold onLive
  rw [isLive_eq_false_iff]
  cases tree.node? id with
  | none => exact iff_of_true (refused_error _) rfl
  | some node => exact iff_of_false (not_refused_iff.mpr (granted node)) (by simp)

theorem granted_surfaceAvailable (node : Node) (kind : Surface.Kind) (handle : Surface.Handle) :
    Granted (do
      let parking ← parkingCommands node kind
      let (surfaces, outcome) := node.surfaces.bind kind handle
      let restoring ← restoringCommands node kind outcome
      pure
        { tree := tree.updateNode id fun node => { node with surfaces }
          commands := parking ++ restoring
          calls := [.surfaceChanged id (some handle) kind.isClient] : Change }) :=
  granted_bind (granted_liftOverflow _) fun _ =>
    granted_bind (granted_liftOverflow _) fun _ => granted_ok _

/-! ## All events -/

/-- An event is refused exactly in the stated cases. -/
theorem refused_iff (forest : tree.Forest) (event : TreeEvent) :
    Refused (tree.change hasViews event) ↔ tree.Refuses event := by
  have never : ∀ change : Change, Refused (.ok change) ↔ False := fun change =>
    iff_of_false (not_refused_iff.mpr (granted_ok change)) id
  cases event with
  | createDesktop id => exact refused_createDesktop_iff
  | create id parent scale accelerated process => exact refused_create_iff
  | startAccelerated id => exact refused_startAccelerated_iff
  | destroy id => exact never _
  | reparent id parent scale => exact refused_reparent_iff forest
  | position id placement => exact refused_position_iff forest
  | focus id =>
      refine refused_onLive_iff fun node => ?_
      split
      · exact granted_ok _
      · exact granted_ok _
  | setText id text => exact refused_onLive_iff fun _ => granted_ok _
  | setIcon id icon => exact refused_onLive_iff fun _ => granted_ok _
  | surfaceAvailable id kind handle =>
      exact refused_onLive_iff fun node => granted_surfaceAvailable node kind handle
  | surfaceDestroyed id kind => exact refused_onLive_iff fun _ => granted_ok _
  | viewVisibility id kind visible => exact refused_onLive_iff fun _ => granted_ok _
  | activityStarted => exact never _
  | activityStopped => exact never _

theorem not_refuses_of_change (forest : tree.Forest) {event : TreeEvent} {change : Change}
    (accepted : tree.change hasViews event = .ok change) : ¬ tree.Refuses event := fun refuses => by
  obtain ⟨error, refused⟩ := (refused_iff forest event).mpr refuses
  rw [accepted] at refused
  cases refused

end Tree

end WindowRelay
