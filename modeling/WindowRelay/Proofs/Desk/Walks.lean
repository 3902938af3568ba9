import WindowRelay.Proofs.Desk.Removal
import WindowRelay.Proofs.Desk.Views
import WindowRelay.Proofs.Tree.Walks

/-!
Contract: the walks through the tree of a desk end.

Owns:
- the calls that set up the views of a window, with nothing that bounds them;
- these calls end, and do to a scene what the commands for the missing views do;
- after every run of events, every walk through the tree ends, whatever it is started with.

A call asks the host about views before anything is set up: the window above is asked about first,
and the views come when the calls return. So the whole chain is decided by the scene at the
beginning.
-/

namespace WindowRelay

namespace Tree

variable {tree : Tree} {scene : Scene} {id : WindowId}

/-- The calls that set up views: a call for a known window without views makes one for its parent
first, and sets up the views of its own window in the scene that is left. The call for a window
makes these calls, itself among them, and has this outcome. -/
inductive SetsUp (tree : Tree) (scene : Scene) :
    WindowId → List WindowId → Except Overflow Scene → Prop where
  | hosted {window : WindowId} (views : scene.hasViews window = true) :
      SetsUp tree scene window [window] (.ok scene)
  | unknown {window : WindowId} (noViews : scene.hasViews window = false)
      (dead : tree.node? window = none) : SetsUp tree scene window [window] (.ok scene)
  | parentless {window : WindowId} {node : Node} (noViews : scene.hasViews window = false)
      (found : tree.node? window = some node) (link : node.parent = none) :
      SetsUp tree scene window [window] ((tree.childViews node).map scene.performAll)
  | inside {window parent : WindowId} {node : Node} {called : List WindowId}
      {outcome : Except Overflow Scene} (noViews : scene.hasViews window = false)
      (found : tree.node? window = some node) (link : node.parent = some parent)
      (above : SetsUp tree scene parent called outcome) :
      SetsUp tree scene window (window :: called) (do
        let higher ← outcome
        (tree.childViews node).map higher.performAll)

theorem SetsUp.unique {called otherCalled : List WindowId}
    {outcome otherOutcome : Except Overflow Scene} (first : SetsUp tree scene id called outcome)
    (second : SetsUp tree scene id otherCalled otherOutcome) :
    otherCalled = called ∧ otherOutcome = outcome := by
  induction first generalizing otherCalled otherOutcome with
  | hosted views =>
      cases second with
      | hosted => exact ⟨rfl, rfl⟩
      | unknown noViews | parentless noViews | inside noViews => rw [views] at noViews; cases noViews
  | unknown noViews dead =>
      cases second with
      | hosted views => rw [noViews] at views; cases views
      | unknown => exact ⟨rfl, rfl⟩
      | parentless _ found | inside _ found => rw [dead] at found; cases found
  | parentless noViews found link =>
      cases second with
      | hosted views => rw [noViews] at views; cases views
      | unknown _ dead => rw [dead] at found; cases found
      | parentless _ otherFound =>
          obtain rfl := Option.some.inj (found.symm.trans otherFound)
          exact ⟨rfl, rfl⟩
      | inside _ otherFound otherLink =>
          obtain rfl := Option.some.inj (found.symm.trans otherFound)
          rw [link] at otherLink
          cases otherLink
  | inside noViews found link above inductionHypothesis =>
      cases second with
      | hosted views => rw [noViews] at views; cases views
      | unknown _ dead => rw [dead] at found; cases found
      | parentless _ otherFound otherLink =>
          obtain rfl := Option.some.inj (found.symm.trans otherFound)
          rw [link] at otherLink
          cases otherLink
      | inside _ otherFound otherLink otherAbove =>
          obtain rfl := Option.some.inj (found.symm.trans otherFound)
          obtain rfl := Option.some.inj (link.symm.trans otherLink)
          obtain ⟨rfl, rfl⟩ := inductionHypothesis otherAbove
          exact ⟨rfl, rfl⟩

/-- The commands for a window and for others after it, seen on a scene. -/
theorem map_performAll_viewsOfAll_cons (scene : Scene) (window : WindowId)
    (rest : List WindowId) :
    (tree.viewsOfAll (window :: rest)).map scene.performAll = (do
      let first ← (tree.viewsOf window).map scene.performAll
      (tree.viewsOfAll rest).map first.performAll) := by
  rw [viewsOfAll_cons_eq]
  cases tree.viewsOf window with
  | error overflow => rfl
  | ok here =>
      cases tree.viewsOfAll rest with
      | error overflow => rfl
      | ok later => exact congrArg Except.ok (Scene.performAll_append scene here later)

/-- The views of the last one of some windows are set up in the scene that the others leave. -/
theorem map_performAll_viewsOfAll_concat (scene : Scene) (windows : List WindowId)
    (id : WindowId) :
    (tree.viewsOfAll (windows ++ [id])).map scene.performAll = (do
      let higher ← (tree.viewsOfAll windows).map scene.performAll
      (tree.viewsOf id).map higher.performAll) := by
  induction windows generalizing scene with
  | nil =>
      rw [List.nil_append, map_performAll_viewsOfAll_cons]
      cases tree.viewsOf id <;> rfl
  | cons window rest inductionHypothesis =>
      rw [List.cons_append, map_performAll_viewsOfAll_cons, map_performAll_viewsOfAll_cons,
        bind_assoc]
      simp only [inductionHypothesis]

/-- The calls go up through the ancestors and stop at the first window that has views. -/
theorem exists_setsUp_of_ascent (forest : tree.Forest) (scene : Scene) {chain : List WindowId}
    (ascent : Ascent tree.parent? id chain) :
    ∃ above, above <+: chain ∧ SetsUp tree scene id (id :: above)
      ((tree.ensureViews scene.hasViews id).map scene.performAll) := by
  have hostedAlready : ∀ {window chain}, scene.hasViews window = true →
      ∃ above, above <+: chain ∧ SetsUp tree scene window (window :: above)
        ((tree.ensureViews scene.hasViews window).map scene.performAll) := by
    intro window chain views
    rw [ensureViews, missingViews_of_hosted views]
    exact ⟨[], List.nil_prefix, .hosted views⟩
  induction ascent with
  | @root window linkless =>
      cases views : scene.hasViews window with
      | true => exact hostedAlready views
      | false =>
          have own : (tree.viewsOfAll [window]).map scene.performAll =
              (tree.viewsOf window).map scene.performAll :=
            map_performAll_viewsOfAll_concat scene [] window
          refine ⟨[], List.nil_prefix, ?_⟩
          rw [ensureViews, missingViews_of_root forest views linkless, own, viewsOf]
          cases found : tree.node? window with
          | none => exact .unknown views found
          | some node =>
              exact .parentless views found ((parent?_of_node? found).symm.trans linkless)
  | @step window parent rest link above inductionHypothesis =>
      cases views : scene.hasViews window with
      | true => exact hostedAlready views
      | false =>
          obtain ⟨higher, isPrefix, calls⟩ := inductionHypothesis
          obtain ⟨node, found, parentIs⟩ := parent?_eq_some_iff.mp link
          have own : tree.viewsOf window = tree.childViews node := by rw [viewsOf, found]
          rw [ensureViews, missingViews_of_parent forest views link,
            map_performAll_viewsOfAll_concat, own]
          exact ⟨parent :: higher, (List.prefix_cons_inj parent).mpr isPrefix,
            .inside views found parentIs calls⟩

/-- The calls end; besides the first one there are fewer of them than windows. -/
theorem ends_setsUp (forest : tree.Forest) (scene : Scene) (id : WindowId) :
    ∃ above, Ends (SetsUp tree scene id) (id :: above)
      ((tree.ensureViews scene.hasViews id).map scene.performAll) ∧
      above.length ≤ tree.size - 1 := by
  obtain ⟨above, isPrefix, calls⟩ :=
    exists_setsUp_of_ascent forest scene (forest.ascent_ancestors id)
  exact ⟨above, ends_of_unique calls fun _ _ other => calls.unique other,
    length_le_of_prefix_ancestors forest isPrefix⟩

end Tree

namespace Desk

variable {reserveFront : Bool} {events : List TreeEvent} {desk : Desk} {output : Output}

/-- After every run, every walk through the tree ends, in one way only and with the result of the
definition that cuts it. The walk up in search of an ancestor passes fewer windows than there are,
and comes to the ancestor exactly if the start descends from it; the call that sets up views, in any
scene, makes fewer further calls than there are windows. The loop that gives a scale takes the
window and all that descend from it, once each; the call that tears down a window makes one further
call for each window that descends from it. -/
theorem walks_end (ran : (fresh reserveFront).run events = .ok (desk, output)) :
    (∀ candidate ancestor, ∃ passed,
      Ends (Tree.Climbs desk.tree ancestor candidate) passed
        (desk.tree.isBelow candidate ancestor) ∧
      passed.length ≤ desk.tree.size - 1 ∧
      (desk.tree.isBelow candidate ancestor = true ↔ desk.tree.Descends ancestor candidate)) ∧
    (∀ scene id, ∃ above,
      Ends (Tree.SetsUp desk.tree scene id) (id :: above)
        ((desk.tree.ensureViews scene.hasViews id).map scene.performAll) ∧
      above.length ≤ desk.tree.size - 1) ∧
    (∀ id scale, ∃ taken,
      Ends (Tree.Rescales scale desk.tree [id]) taken (desk.tree.rescale id scale) ∧
      taken.Nodup ∧ ∀ other, other ∈ taken ↔ other = id ∨ desk.tree.Descends id other) ∧
    (∀ id, ∃ below,
      Ends (Tree.TearsDown { tree := desk.tree } [id]) (id :: below) (desk.tree.destroy id) ∧
      below.Nodup ∧ ∀ other, other ∈ below ↔ desk.tree.Descends id other) := by
  have forest := forest_of_run ran
  refine ⟨fun candidate ancestor => ?_, Tree.ends_setsUp forest, Tree.ends_rescales forest,
    Tree.ends_tearsDown forest⟩
  obtain ⟨passed, climbs, short⟩ := Tree.ends_climbs forest candidate ancestor
  exact ⟨passed, climbs, short, Tree.isBelow_iff_descends forest⟩

theorem walks_end_after_removalRun :
    ∃ desk output, (fresh true).run removalRun = .ok (desk, output) ∧ desk.tree.size = 5 ∧
      (∃ passed, Tree.Climbs desk.tree 16 34 passed true ∧ passed.length ≤ 4) ∧
      (∃ above outcome, Tree.SetsUp desk.tree { reserveFront := true } 34 (34 :: above) outcome ∧
        above.length ≤ 4) ∧
      (∃ taken, Tree.Rescales Binary32.one desk.tree [17] taken
        (desk.tree.rescale 17 Binary32.one) ∧ taken.Nodup ∧ 17 ∈ taken ∧ 34 ∈ taken) ∧
      ∃ below, Tree.TearsDown { tree := desk.tree } [17] (17 :: below) (desk.tree.destroy 17) ∧
        below.Nodup ∧ 34 ∈ below ∧ 16 ∉ below := by
  have passes : (fresh true).finishes removalRun (fun desk =>
      desk.tree.size = 5 ∧ desk.tree.isBelow 34 16 = true ∧ desk.tree.isBelow 34 17 = true ∧
        desk.tree.isBelow 16 17 = false) = true := by
    decide +kernel
  obtain ⟨desk, output, ran, passed⟩ := exists_of_finishes passes
  obtain ⟨size, belowTop, belowRoot, topAbove⟩ := of_decide_eq_true passed
  obtain ⟨climbing, settingUp, rescaling, tearingDown⟩ := walks_end ran
  obtain ⟨passed, climbs, short, -⟩ := climbing 34 16
  obtain ⟨-, -, -, fromRoot⟩ := climbing 34 17
  obtain ⟨-, -, -, notFromRoot⟩ := climbing 16 17
  obtain ⟨above, setsUp, few⟩ := settingUp { reserveFront := true } 34
  obtain ⟨taken, rescales, once, takes⟩ := rescaling 17 Binary32.one
  obtain ⟨below, tearsDown, belowOnce, calls⟩ := tearingDown 17
  rw [size] at short few
  have descends := fromRoot.mp belowRoot
  refine ⟨desk, output, ran, size, ⟨passed, (climbs passed true).mpr ⟨rfl, belowTop.symm⟩, short⟩,
    ⟨above, _, (setsUp _ _).mpr ⟨rfl, rfl⟩, few⟩,
    ⟨taken, (rescales _ _).mpr ⟨rfl, rfl⟩, once, (takes 17).mpr (.inl rfl),
      (takes 34).mpr (.inr descends)⟩,
    ⟨below, (tearsDown _ _).mpr ⟨rfl, rfl⟩, belowOnce, (calls 34).mpr descends, fun member => ?_⟩⟩
  rw [notFromRoot.mpr ((calls 16).mp member)] at topAbove
  cases topAbove

end Desk

end WindowRelay
