import WindowRelay.Proofs.Tree.Forest

/-!
Contract: tearing down a subtree one childless window after the other.

Owns:
- what the removal of a window without children does to the links;
- the order in which a subtree is torn down: every window after its children;
- the windows of a subtree: its root and every live window below it;
- the principle that what each such removal preserves, the whole teardown preserves.

The list of windows to remove is worked out on the tree as it was at the beginning. It stays right
while windows go, because removals add no child, and the children of a window are gone before its
turn comes.
-/

namespace WindowRelay

namespace Tree

variable {tree : Tree} {id : WindowId} {node : Node}

/-! ## One window without children -/

theorem destroyOne_of_dead (dead : ¬ tree.isLive id = true) : tree.destroyOne id = { tree } := by
  unfold destroyOne
  rw [node?_eq_none_of_not_isLive dead]

theorem nodes_destroyOne (forest : tree.Forest) (found : tree.node? id = some node) :
    (tree.destroyOne id).tree.nodes = ((tree.dropNode id).unlink node.parent id).nodes := by
  have parentless : node.kind ≠ .child → node.parent = none := fun notChild => by
    rw [← parent?_of_node? found]
    exact forest.anchored id node.kind (kind?_of_node? found) notChild
  simp only [destroyOne, found]
  cases kindIs : node.kind with
  | desktop => rw [parentless (by simp [kindIs])]; rfl
  | topLevel flag => rw [parentless (by simp [kindIs])]; rfl
  | child => rfl

theorem order_destroyOne (forest : tree.Forest) (found : tree.node? id = some node) :
    (tree.destroyOne id).tree.order = Stacking.without tree.order id := by
  have notListed : (∀ flag, node.kind ≠ .topLevel flag) →
      Stacking.without tree.order id = tree.order := fun notTopLevel => by
    refine Stacking.without_of_notMem (forest.not_mem_order fun flag => ?_)
    rw [kind?_of_node? found]
    exact fun same => notTopLevel flag (Option.some.inj same)
  simp only [destroyOne, found]
  cases kindIs : node.kind with
  | desktop => exact (notListed (by simp [kindIs])).symm
  | topLevel flag => rfl
  | child =>
      rw [notListed (by simp [kindIs])]
      cases node.parent <;> rfl

theorem desktop_destroyOne (found : tree.node? id = some node) :
    (tree.destroyOne id).tree.desktop =
      if node.kind = .desktop then none else tree.desktop := by
  simp only [destroyOne, found]
  cases kindIs : node.kind with
  | desktop => rfl
  | topLevel flag => rfl
  | child => cases node.parent <;> rfl

theorem rehomed_destroyOne (forest : tree.Forest) (live : tree.isLive id = true)
    (childless : tree.children id = []) :
    Rehomed tree (tree.destroyOne id).tree id none none none := by
  obtain ⟨node, found⟩ := isLive_iff.mp live
  have nodes := nodes_destroyOne forest found
  have link : tree.parent? id = node.parent := parent?_of_node? found
  exact
    { stored := ((forest.stored.dropNode id).unlink node.parent id).congr nodes
      kinds := fun other => by rw [kind?_congr nodes, kind?_unlink, kind?_dropNode]
      styles := fun other => by rw [style?_congr nodes, style?_unlink, style?_dropNode]
      parents := fun other => by rw [parent?_congr nodes, parent?_unlink, parent?_dropNode]
      lists := fun parent => by
        rw [children_congr nodes, children_unlink, children_dropNode]
        by_cases isId : parent = id
        · simp [isId, childless, Stacking.without]
        · by_cases isParent : node.parent = some parent
          · simp [isId, isParent]
          · have notListed : id ∉ tree.children parent := fun member =>
              isParent (link ▸ (forest.links.linked id parent).mpr member)
            simp [isId, isParent, Stacking.without_of_notMem notListed]
      order := by simp [order_destroyOne forest found]
      desktop := fun other => by
        rw [desktop_destroyOne found]
        have ownKind : tree.desktop = some id ↔ node.kind = .desktop := by
          rw [forest.desktop, kind?_of_node? found, Option.some.injEq]
        by_cases isDesktop : node.kind = .desktop
        · have isThere := ownKind.mpr isDesktop
          by_cases isId : other = id
          · simp [isDesktop, isId]
          · simp [isDesktop, isId, isThere, Ne.symm isId]
        · by_cases isId : other = id
          · simp [isDesktop, isId, ownKind]
          · simp [isDesktop, isId]
      above := by simp
      anchored := by simp
      detached := by simp
      normal := by simp }

/-! ## The order of a teardown -/

/-- Every window comes when its children are done. -/
def ChildrenFirst (children : WindowId → List WindowId) : List WindowId → List WindowId → Prop
  | _, [] => True
  | done, window :: rest =>
    children window ⊆ done ∧ ChildrenFirst children (done ++ [window]) rest

theorem childrenFirst_append {children : WindowId → List WindowId}
    {done first second : List WindowId} :
    ChildrenFirst children done (first ++ second) ↔
      ChildrenFirst children done first ∧ ChildrenFirst children (done ++ first) second := by
  induction first generalizing done with
  | nil => simp [ChildrenFirst]
  | cons window rest inductionHypothesis =>
      simp only [List.cons_append, ChildrenFirst, inductionHypothesis, and_assoc,
        List.append_assoc, List.nil_append]

theorem childrenFirst_flatMap {children : WindowId → List WindowId} {windows : List WindowId}
    {below : WindowId → List WindowId}
    (each : ∀ window ∈ windows, ∀ done, ChildrenFirst children done (below window))
    (done : List WindowId) : ChildrenFirst children done (windows.flatMap below) := by
  induction windows generalizing done with
  | nil => simp [ChildrenFirst]
  | cons window rest inductionHypothesis =>
      rw [List.flatMap_cons, childrenFirst_append]
      exact ⟨each window (by simp) done,
        inductionHypothesis (fun other member => each other (by simp [member])) _⟩

theorem mem_subtreeWithin_self (live : tree.isLive id = true) (levels : Nat) :
    id ∈ tree.subtreeWithin (levels + 1) id := by
  simp [subtreeWithin, live]

/-- Where a window stands `k` levels below a root, `size - k` levels reach every window below it. -/
theorem childrenFirst_subtreeWithin (forest : tree.Forest) {levels : Nat} {id : WindowId}
    (enough : tree.size ≤ levels + (tree.ancestors id).length) (done : List WindowId) :
    ChildrenFirst tree.children done (tree.subtreeWithin levels id) := by
  induction levels generalizing id done with
  | zero => simp [subtreeWithin, ChildrenFirst]
  | succ levels inductionHypothesis =>
      unfold subtreeWithin
      split
      · refine childrenFirst_append.mpr ⟨childrenFirst_flatMap ?_ done, ?_, trivial⟩
        · intro child member childDone
          have depth := forest.length_ancestors_of_mem_children (List.mem_reverse.mp member)
          exact inductionHypothesis (by omega) childDone
        · intro child member
          have live := (forest.isLive_of_child ((forest.links.linked child id).mpr member)).1
          have inside := forest.length_ancestors_lt live
          have depth := forest.length_ancestors_of_mem_children member
          obtain ⟨fewer, levelsEq⟩ : ∃ fewer, levels = fewer + 1 := ⟨levels - 1, by omega⟩
          refine List.mem_append_right _ (List.mem_flatMap.mpr
            ⟨child, List.mem_reverse.mpr member, ?_⟩)
          rw [levelsEq]
          exact mem_subtreeWithin_self live fewer
      · simp [ChildrenFirst]

theorem childrenFirst_subtree (forest : tree.Forest) (id : WindowId) :
    ChildrenFirst tree.children [] (tree.subtree id) :=
  childrenFirst_subtreeWithin forest (Nat.le_add_right _ _) []

/-! ## The windows of a subtree -/

/-- Only windows at or below the root are torn down with it. -/
theorem eq_or_below_of_mem_subtreeWithin (forest : tree.Forest) {levels : Nat} {root : WindowId}
    (member : id ∈ tree.subtreeWithin levels root) : id = root ∨ root ∈ tree.ancestors id := by
  induction levels generalizing root with
  | zero => simp [subtreeWithin] at member
  | succ levels inductionHypothesis =>
      unfold subtreeWithin at member
      split at member
      · rcases List.mem_append.mp member with inChild | isRoot
        · obtain ⟨child, isChild, inside⟩ := List.mem_flatMap.mp inChild
          have link := (forest.links.linked child root).mpr (List.mem_reverse.mp isChild)
          refine .inr ?_
          rcases inductionHypothesis inside with rfl | below
          · rw [forest.ancestors_of_parent? link]
            exact List.mem_cons_self
          · exact (forest.ascent_ancestors id).parent_mem link below
        · exact .inl (List.mem_singleton.mp isRoot)
      · cases member

/-- In a list where children come first, the children of each member are members. -/
theorem ChildrenFirst.closed {children : WindowId → List WindowId} {done windows : List WindowId}
    (ordered : ChildrenFirst children done windows) {window child : WindowId}
    (member : window ∈ windows) (isChild : child ∈ children window) : child ∈ done ++ windows := by
  induction windows generalizing done with
  | nil => cases member
  | cons head rest inductionHypothesis =>
      rcases List.mem_cons.mp member with isHead | inRest
      · subst isHead
        exact List.mem_append_left _ (ordered.1 isChild)
      · simpa using inductionHypothesis ordered.2 inRest

theorem isLive_of_mem_subtreeWithin {levels : Nat} {root : WindowId}
    (member : id ∈ tree.subtreeWithin levels root) : tree.isLive id = true := by
  induction levels generalizing root with
  | zero => simp [subtreeWithin] at member
  | succ levels inductionHypothesis =>
      unfold subtreeWithin at member
      split at member
      · next live =>
          rcases List.mem_append.mp member with inChild | isRoot
          · obtain ⟨child, -, inside⟩ := List.mem_flatMap.mp inChild
            exact inductionHypothesis inside
          · exact List.mem_singleton.mp isRoot ▸ live
      · cases member

/-- A subtree is the root and every live window below it. -/
theorem mem_subtree_iff (forest : tree.Forest) {root : WindowId} :
    id ∈ tree.subtree root ↔ tree.isLive id = true ∧ (id = root ∨ root ∈ tree.ancestors id) := by
  constructor
  · intro member
    exact ⟨isLive_of_mem_subtreeWithin member, eq_or_below_of_mem_subtreeWithin forest member⟩
  · have ordered := childrenFirst_subtree forest root
    have rootInside : tree.isLive root = true → root ∈ tree.subtree root := by
      intro live
      obtain ⟨levels, sizeIs⟩ : ∃ levels, tree.size = levels + 1 :=
        Nat.exists_eq_succ_of_ne_zero (by have := forest.length_ancestors_lt live; omega)
      rw [subtree, sizeIs]
      exact mem_subtreeWithin_self live levels
    rintro ⟨live, rfl | below⟩
    · exact rootInside live
    · have ascent := forest.ascent_ancestors id
      have rootLive := forest.isLive_of_mem_ascent ascent below
      generalize tree.ancestors id = chain at ascent below
      clear live
      -- From the root down the chain, each window is a child of a member.
      induction ascent with
      | root => cases below
      | @step window parent rest link _ inductionHypothesis =>
          have parentInside : parent ∈ tree.subtree root := by
            rcases List.mem_cons.mp below with isRoot | inRest
            · exact isRoot ▸ rootInside rootLive
            · exact inductionHypothesis inRest
          exact ordered.closed parentInside ((forest.links.linked window parent).mp link)

/-- A live root goes last, and every other window of its subtree has a parent. -/
theorem subtree_eq_append (forest : tree.Forest) {root : WindowId}
    (live : tree.isLive root = true) :
    ∃ below, tree.subtree root = below ++ [root] ∧
      ∀ window ∈ below, (tree.parent? window).isSome = true := by
  obtain ⟨levels, sizeIs⟩ : ∃ levels, tree.size = levels + 1 :=
    Nat.exists_eq_succ_of_ne_zero (by have := forest.length_ancestors_lt live; omega)
  refine ⟨(tree.children root).reverse.flatMap (tree.subtreeWithin levels), ?_, ?_⟩
  · rw [subtree, sizeIs, subtreeWithin, if_pos live]
  · intro window member
    obtain ⟨child, isChild, inside⟩ := List.mem_flatMap.mp member
    rcases eq_or_below_of_mem_subtreeWithin forest inside with rfl | below
    · rw [(forest.links.linked window root).mpr (List.mem_reverse.mp isChild)]
      rfl
    · cases link : tree.parent? window with
      | some parent => rfl
      | none =>
          rw [forest.ancestors_of_root link] at below
          cases below

/-! ## The whole teardown -/

/-- What holds of the tree as it is, and is preserved by the removal of a live window without
children, holds after a teardown. -/
theorem destroy_induction (forest : tree.Forest) {motive : Change → Prop} (id : WindowId)
    (start : motive { tree })
    (step : ∀ (change : Change) (window : WindowId), change.tree.Forest →
      change.tree.isLive window = true → change.tree.children window = [] → motive change →
      motive (change.followedBy (·.destroyOne window))) :
    motive (tree.destroy id) := by
  -- The list is that of `tree`. In the current tree no window has gained a child, and the windows
  -- that came before in the list are gone.
  have teardown : ∀ (windows done : List WindowId) (change : Change), change.tree.Forest →
      (∀ window, change.tree.children window ⊆ tree.children window) →
      (∀ window ∈ done, ¬ change.tree.isLive window = true) →
      ChildrenFirst tree.children done windows → motive change →
      motive (windows.foldl (fun change window => change.followedBy (·.destroyOne window))
        change) := by
    intro windows
    induction windows with
    | nil => exact fun _ _ _ _ _ _ holds => holds
    | cons window rest inductionHypothesis =>
        intro done change changeForest fewer gone ordered holds
        rw [List.foldl_cons]
        by_cases live : change.tree.isLive window = true
        · have childless : change.tree.children window = [] := by
            apply List.eq_nil_iff_forall_not_mem.mpr
            intro child member
            have link := (changeForest.links.linked child window).mpr member
            exact gone child (ordered.1 (fewer window member)) (changeForest.isLive_of_child link).1
          have rehomed := rehomed_destroyOne changeForest live childless
          refine inductionHypothesis (done ++ [window]) _ (changeForest.ofRehomed rehomed) ?_ ?_
            ordered.2 (step change window changeForest live childless holds)
          · intro parent child member
            rw [Change.followedBy, rehomed.lists, if_neg (by simp), List.append_nil] at member
            exact fewer parent (Stacking.mem_without.mp member).1
          · intro other member
            rw [Change.followedBy, isLive_eq_kind?, rehomed.kinds]
            by_cases isWindow : other = window
            · simp [isWindow]
            · rw [if_neg isWindow, ← isLive_eq_kind?]
              exact gone other (by simpa [isWindow] using member)
        · have unchanged : change.followedBy (·.destroyOne window) = change := by
            simp [Change.followedBy, destroyOne_of_dead live]
          rw [unchanged]
          refine inductionHypothesis (done ++ [window]) change changeForest fewer ?_ ordered.2 holds
          intro other member
          rcases List.mem_append.mp member with isDone | isWindow
          · exact gone other isDone
          · exact List.mem_singleton.mp isWindow ▸ live
  exact teardown (tree.subtree id) [] { tree } forest (fun _ => List.Subset.refl _) (by simp)
    (childrenFirst_subtree forest id) start

end Tree

end WindowRelay
