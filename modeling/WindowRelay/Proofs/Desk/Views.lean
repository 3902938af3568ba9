import WindowRelay.Proofs.Desk.Mounting
import WindowRelay.Proofs.Outcome
import WindowRelay.Tree.Views

/-!
Contract: views that are set up for a window and for the windows above it.

Owns:
- the chain of windows without views, one window at a time;
- the windows of that chain get views, and the visible ones among them are attached.

The induction is on the chain of parents: the parent of a window has views before the window gets
its own, so its container is there when the window is attached.
-/

namespace WindowRelay

namespace Tree

variable {tree : Tree} {hosted : WindowId → Bool} {id parent : WindowId}
  {commands : List Scene.Command}

/-! ## The windows without views -/

theorem missingViews_of_hosted (isHosted : hosted id = true) :
    tree.missingViews hosted id = [] := by
  simp [missingViews, isHosted]

theorem missingViews_of_root (forest : tree.Forest) (notHosted : hosted id = false)
    (parentless : tree.parent? id = none) : tree.missingViews hosted id = [id] := by
  simp [missingViews, notHosted, forest.ancestors_of_root parentless]

theorem missingViews_of_parent (forest : tree.Forest) (notHosted : hosted id = false)
    (link : tree.parent? id = some parent) :
    tree.missingViews hosted id = tree.missingViews hosted parent ++ [id] := by
  simp [missingViews, notHosted, forest.ancestors_of_parent? link]

/-- Once the missing views are there, the window has views. -/
theorem hosted_after_missing (tree : Tree) (hosted : WindowId → Bool) (id : WindowId) :
    ((tree.missingViews hosted id).contains id || hosted id) = true := by
  cases isHosted : hosted id with
  | true => exact Bool.or_true _
  | false => simp [missingViews, isHosted]

/-- So has its parent, unless the window had views all along. -/
theorem parent_hosted_after_missing (forest : tree.Forest) (hosted : WindowId → Bool)
    (notHosted : hosted id = false) (link : tree.parent? id = some parent) :
    ((tree.missingViews hosted id).contains parent || hosted parent) = true := by
  have inChain := hosted_after_missing tree hosted parent
  rw [missingViews_of_parent forest notHosted link]
  rcases Bool.or_eq_true_iff.mp inChain with missing | isHosted
  · simp [List.contains_iff_mem.mp missing]
  · simp [isHosted]

/-- Views are set up for live windows only. -/
theorem isLive_of_hosted_after_missing (forest : tree.Forest) (live : tree.isLive id = true)
    (others : ∀ other, hosted other = true → tree.isLive other = true) {other : WindowId}
    (isHosted : ((tree.missingViews hosted id).contains other || hosted other) = true) :
    tree.isLive other = true := by
  rcases Bool.or_eq_true_iff.mp isHosted with missing | wasHosted
  · have isMissing := List.mem_reverse.mp (List.contains_iff_mem.mp missing)
    rcases List.mem_cons.mp ((List.takeWhile_sublist _).subset isMissing) with isId | isAbove
    · exact isId ▸ live
    · exact forest.isLive_of_mem_ascent (forest.ascent_ancestors id) isAbove
  · exact others other wasHosted

/-! ## The commands -/

/-- The commands for one window, none for an unknown one. -/
def viewsOf (tree : Tree) (id : WindowId) : Except Overflow (List Scene.Command) :=
  match tree.node? id with
  | some node => tree.childViews node
  | none => pure []

theorem viewsOfAll_cons_eq (tree : Tree) (id : WindowId) (rest : List WindowId) :
    tree.viewsOfAll (id :: rest) = (do
      let here ← tree.viewsOf id
      pure (here ++ (← tree.viewsOfAll rest))) := by
  rw [viewsOfAll, viewsOf]
  cases tree.node? id <;> rfl

theorem viewsOfAll_cons {rest : List WindowId} :
    tree.viewsOfAll (id :: rest) = .ok commands ↔ ∃ here later,
      tree.viewsOf id = .ok here ∧ tree.viewsOfAll rest = .ok later ∧ here ++ later = commands := by
  rw [viewsOfAll_cons_eq, bind_eq_ok]
  constructor
  · rintro ⟨here, ownViews, remaining⟩
    obtain ⟨later, laterViews, finished⟩ := bind_eq_ok.mp remaining
    exact ⟨here, later, ownViews, laterViews, pure_eq_ok.mp finished⟩
  · rintro ⟨here, later, ownViews, laterViews, finished⟩
    exact ⟨here, ownViews, bind_eq_ok.mpr ⟨later, laterViews, pure_eq_ok.mpr finished⟩⟩

theorem viewsOfAll_append {first second : List WindowId} :
    tree.viewsOfAll (first ++ second) = .ok commands → ∃ before after,
      tree.viewsOfAll first = .ok before ∧ tree.viewsOfAll second = .ok after ∧
        before ++ after = commands := by
  induction first generalizing commands with
  | nil => exact fun computed => ⟨[], commands, rfl, computed, rfl⟩
  | cons window rest inductionHypothesis =>
      intro computed
      obtain ⟨here, later, ownViews, laterViews, rfl⟩ := viewsOfAll_cons.mp computed
      obtain ⟨before, after, beforeViews, afterViews, rfl⟩ := inductionHypothesis laterViews
      exact ⟨here ++ before, after,
        viewsOfAll_cons.mpr ⟨here, before, ownViews, beforeViews, rfl⟩, afterViews,
        List.append_assoc here before after⟩

theorem viewsOfAll_singleton {node : Node} (found : tree.node? id = some node)
    (computed : tree.viewsOfAll [id] = .ok commands) : tree.childViews node = .ok commands := by
  obtain ⟨here, later, ownViews, nothing, rfl⟩ := viewsOfAll_cons.mp computed
  rw [viewsOf, found] at ownViews
  rw [viewsOfAll, pure_eq_ok] at nothing
  rw [← nothing, List.append_nil]
  exact ownViews

/-- The layouts of the views of a child; without a parent only the client container has one. -/
def childLayouts (node : Node) (client whole : Rect) : List Scene.Command :=
  .layout node.id .client client ::
    if node.parent.isSome then [.layout node.id .whole whole] else []

theorem quiet_childLayouts (node : Node) (client whole : Rect) :
    ∀ command ∈ childLayouts node client whole, command.isQuiet = true := by
  unfold childLayouts
  split <;> simp

/-- The commands for one child. -/
theorem childViews_eq_ok {node : Node} (computed : tree.childViews node = .ok commands) :
    ∃ client whole, node.clientLayout >>= Layout.padded = .ok client ∧
      (node.parent.isSome = true → Layout.padded node.visibleRect = .ok whole) ∧
      commands = .createViews node.id :: (childLayouts node client whole ++
        if node.parent.isSome && node.visible then tree.attachCommands node.id else []) := by
  unfold childViews at computed
  obtain ⟨area, isArea, rest⟩ := bind_eq_ok.mp computed
  obtain ⟨client, isClient, rest⟩ := bind_eq_ok.mp rest
  have inside := bind_eq_ok.mpr ⟨area, isArea, isClient⟩
  cases parentIs : node.parent with
  | none =>
      rw [parentIs] at rest
      cases rest
      exact ⟨client, Rect.zero, inside, by simp, by simp [childLayouts, parentIs]⟩
  | some parent =>
      rw [parentIs] at rest
      obtain ⟨whole, isWhole, rest⟩ := bind_eq_ok.mp rest
      cases rest
      exact ⟨client, whole, inside, fun _ => isWhole, by simp [childLayouts, parentIs]⟩

end Tree

/-! ## Their effect -/

namespace Mounted

variable {tree : Tree} {scene : Scene} {hosted shown : WindowId → Bool}
  {desktop : List WindowId} {id : WindowId} {commands : List Scene.Command}

/-- One window gets views, in the container of its parent if it is visible. -/
theorem childViews (mounted : Mounted tree scene hosted shown desktop) (forest : tree.Forest)
    {node : Node} (found : tree.node? id = some node)
    (above : ∀ parent, tree.parent? id = some parent → hosted parent = true)
    (computed : tree.childViews node = .ok commands) :
    Mounted tree (scene.performAll commands) (fun other => other == id || hosted other)
      (fun other => (other == id && tree.isVisible other) || shown other) desktop := by
  obtain ⟨client, whole, -, -, rfl⟩ := Tree.childViews_eq_ok computed
  have own : node.id = id := forest.stored id node found
  have visibleIs := Tree.isVisible_of_node? found
  have laidOut := (mounted.createViews id).quiet (Tree.quiet_childLayouts node client whole)
  rw [Scene.performAll_cons, Scene.performAll_append, own]
  by_cases attaches : (node.parent.isSome && node.visible) = true
  · rw [if_pos attaches]
    have aboveStill : ∀ parent, tree.parent? id = some parent →
        (parent == id || hosted parent) = true := by
      intro parent link
      simp [above parent link]
    apply (laidOut.attach forest aboveStill).congr forest (fun _ => rfl)
    intro other parent _
    by_cases isId : other = id
    · simp [isId, visibleIs, (Bool.and_eq_true_iff.mp attaches).2]
    · rw [beq_eq_false_iff_ne.mpr isId, Bool.false_and]
  · rw [if_neg attaches, Scene.performAll_nil]
    apply laidOut.congr forest (fun _ => rfl)
    intro other parent link
    by_cases isId : other = id
    · subst isId
      rw [Tree.parent?_of_node? found] at link
      have hidden : node.visible = false := by simpa [link] using attaches
      simp [visibleIs, hidden]
    · simp [isId]

/-- A window and the windows above it get the views that are missing. -/
theorem ensureViews (mounted : Mounted tree scene hosted shown desktop) (forest : tree.Forest)
    (live : tree.isLive id = true) (computed : tree.ensureViews hosted id = .ok commands) :
    Mounted tree (scene.performAll commands)
      (fun other => (tree.missingViews hosted id).contains other || hosted other)
      (fun other => ((tree.missingViews hosted id).contains other && tree.isVisible other) ||
        shown other) desktop := by
  obtain ⟨chain, ascent⟩ := forest.links.rooted id
  -- The windows above come first in the list, so each step adds one window at its end.
  unfold Tree.ensureViews at computed
  induction ascent generalizing commands with
  | @root id parentless =>
      by_cases isHosted : hosted id = true
      · rw [Tree.missingViews_of_hosted isHosted] at computed ⊢
        cases computed
        simpa using mounted
      · obtain ⟨node, found⟩ := Tree.isLive_iff.mp live
        rw [Tree.missingViews_of_root forest (by simpa using isHosted) parentless] at computed ⊢
        have own := mounted.childViews forest found (by simp [parentless])
          (Tree.viewsOfAll_singleton found computed)
        refine own.congr forest (fun other => ?_) fun other _ _ => ?_
        · by_cases isId : other = id <;> simp [isId]
        · by_cases isId : other = id <;> simp [isId]
  | @step id parent rest link above inductionHypothesis =>
      by_cases isHosted : hosted id = true
      · rw [Tree.missingViews_of_hosted isHosted] at computed ⊢
        cases computed
        simpa using mounted
      · obtain ⟨node, found⟩ := Tree.isLive_iff.mp live
        rw [Tree.missingViews_of_parent forest (by simpa using isHosted) link] at computed ⊢
        obtain ⟨before, after, beforeViews, ownViews, rfl⟩ := Tree.viewsOfAll_append computed
        have higher := inductionHypothesis (forest.isLive_of_child link).2 beforeViews
        have own := higher.childViews forest found ?_ (Tree.viewsOfAll_singleton found ownViews)
        · rw [Scene.performAll_append]
          refine own.congr forest (fun other => ?_) fun other _ _ => ?_
          · by_cases isId : other = id <;> simp [isId]
          · by_cases isId : other = id
            · cases visibleIs : tree.isVisible id <;> simp [isId, visibleIs]
            · simp [isId]
        · intro other otherLink
          have same : parent = other := Option.some.inj (link.symm.trans otherLink)
          exact same ▸ Tree.hosted_after_missing tree hosted parent

end Mounted

end WindowRelay
