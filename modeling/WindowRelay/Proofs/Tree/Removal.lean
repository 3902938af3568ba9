import WindowRelay.Proofs.Tree.Subtree
import WindowRelay.Proofs.Tree.Surfaces

/-!
Contract: what is left of a tree when a window goes with everything below it.

Owns:
- what is left while the windows go: the nodes that are live, with those of their children that are
  live;
- what is left at the end: only the former parent of the root has lost a child;
- the calls: every window of the subtree tells about its own surfaces, in the order of the list.

While a subtree is torn down, the tree that is left is always described by its live windows alone.
Which of them have been reached so far never has to be said.
-/

namespace WindowRelay

/-- A node with those of its children that stay. -/
def Node.keeping (node : Node) (stays : WindowId → Bool) : Node :=
  { node with children := node.children.filter stays }

namespace Tree

variable {tree left : Tree} {id root other : WindowId}

/-! ## One window -/

theorem isLive_destroyOne (tree : Tree) (id other : WindowId) :
    (tree.destroyOne id).tree.isLive other = (other != id && tree.isLive other) := by
  rw [isLive_eq_record?, record?_destroyOne, isLive_eq_record?]
  by_cases isId : other = id <;> simp [isId]

theorem node?_destroyOne (forest : tree.Forest) (live : tree.isLive id = true) (other : WindowId) :
    (tree.destroyOne id).tree.node? other =
      if other = id then none
      else (tree.node? other).map fun node =>
        { node with children := Stacking.without node.children id } := by
  obtain ⟨node, found⟩ := isLive_iff.mp live
  rw [← forest.node?_unlink, parent?_of_node? found,
    node?_congr (nodes_destroyOne forest found), Tree.node?_unlink, Tree.node?_unlink,
    node?_dropNode]
  by_cases isId : other = id <;> simp [isId]

/-! ## What is left while windows go -/

/-- The tree that is left consists of live windows alone. -/
structure Leaves (tree left : Tree) : Prop where
  nodes : ∀ other, left.node? other =
    if left.isLive other = true then (tree.node? other).map (·.keeping left.isLive) else none
  order : left.order = tree.order.filter left.isLive

theorem leaves_self (forest : tree.Forest) : Leaves tree tree where
  nodes other := by
    split
    · next live =>
        obtain ⟨node, found⟩ := isLive_iff.mp live
        have all : node.children.filter tree.isLive = node.children := by
          apply List.filter_eq_self.mpr
          intro child member
          rw [← children_of_node? found] at member
          exact (forest.isLive_of_child ((forest.links.linked child other).mpr member)).1
        simp [found, Node.keeping, all]
    · next dead => exact node?_eq_none_of_not_isLive dead
  order := by
    refine (List.filter_eq_self.mpr fun other member => ?_).symm
    by_contra dead
    exact forest.not_mem_order_of_dead dead member

theorem Leaves.children (leaves : Leaves tree left) (live : left.isLive id = true) :
    left.children id = (tree.children id).filter left.isLive := by
  rw [Tree.children, leaves.nodes, if_pos live, Tree.children]
  cases tree.node? id <;> rfl

theorem Leaves.isLive (leaves : Leaves tree left) (live : left.isLive id = true) :
    tree.isLive id = true := by
  obtain ⟨node, found⟩ := isLive_iff.mp live
  rw [leaves.nodes, if_pos live] at found
  obtain ⟨former, formerFound, -⟩ := Option.map_eq_some_iff.mp found
  exact isLive_iff.mpr ⟨former, formerFound⟩

theorem Leaves.destroyOne (leaves : Leaves tree left) (forest : left.Forest)
    (live : left.isLive id = true) : Leaves tree (left.destroyOne id).tree := by
  obtain ⟨node, found⟩ := isLive_iff.mp live
  have stays : (left.destroyOne id).tree.isLive = fun other => other != id && left.isLive other :=
    funext (isLive_destroyOne left id)
  refine ⟨fun other => ?_, ?_⟩
  · rw [node?_destroyOne forest live, leaves.nodes, stays]
    by_cases isId : other = id
    · simp [isId]
    · by_cases stillThere : left.isLive other = true
      · simp [isId, stillThere, Node.keeping, Stacking.without, Function.comp_def]
      · simp [isId, stillThere]
  · rw [order_destroyOne forest found, leaves.order, stays]
    simp [Stacking.without]

theorem leaves_destroy (forest : tree.Forest) (root : WindowId) :
    Leaves tree (tree.destroy root).tree := by
  refine destroy_induction forest (motive := fun change => Leaves tree change.tree) root
    (leaves_self forest) ?_
  intro change window changeForest live _ leaves
  exact leaves.destroyOne changeForest live

/-! ## What is left at the end -/

theorem isLive_destroy_iff (forest : tree.Forest) :
    (tree.destroy root).tree.isLive id = true ↔
      tree.isLive id = true ∧ id ∉ tree.subtree root := by
  rw [isLive_destroy forest, mem_subtree_iff forest, isBelow, ← Bool.not_eq_true,
    List.contains_iff_mem]
  constructor
  · rintro ⟨live, notRoot, notBelow⟩
    exact ⟨live, fun inside => inside.2.elim notRoot notBelow⟩
  · rintro ⟨live, outside⟩
    exact ⟨live, fun isRoot => outside ⟨live, .inl isRoot⟩,
      fun isBelow => outside ⟨live, .inr isBelow⟩⟩

/-- Of the children of a window outside the subtree only the root goes. -/
theorem isLive_destroy_child (forest : tree.Forest) (outside : id ∉ tree.subtree root)
    {child : WindowId} (isChild : child ∈ tree.children id) :
    (tree.destroy root).tree.isLive child = (child != root) := by
  have live := (forest.isLive_of_child ((forest.links.linked child id).mpr isChild)).1
  rw [Bool.eq_iff_iff, isLive_destroy_iff forest, bne_iff_ne]
  constructor
  · rintro ⟨-, childOutside⟩ rfl
    exact childOutside (mem_subtree_self forest live)
  · intro notRoot
    exact ⟨live, fun inside => notRoot (eq_root_of_child forest outside isChild inside)⟩

/-- Of the windows without a parent only the root goes. -/
theorem isLive_destroy_parentless (forest : tree.Forest) (live : tree.isLive id = true)
    (parentless : tree.parent? id = none) :
    (tree.destroy root).tree.isLive id = (id != root) := by
  rw [Bool.eq_iff_iff, isLive_destroy_iff forest, bne_iff_ne, mem_subtree_iff forest,
    forest.ancestors_of_root parentless]
  simp [live]

theorem node?_destroy (forest : tree.Forest) (root other : WindowId) :
    (tree.destroy root).tree.node? other =
      if other ∈ tree.subtree root then none
      else (tree.node? other).map fun node =>
        if tree.parent? root = some other then
          { node with children := Stacking.without node.children root }
        else node := by
  rw [(leaves_destroy forest root).nodes]
  cases found : tree.node? other with
  | none => simp
  | some node =>
      have live := isLive_iff.mpr ⟨node, found⟩
      by_cases inside : other ∈ tree.subtree root
      · have gone : ¬ (tree.destroy root).tree.isLive other = true := fun stays =>
          ((isLive_destroy_iff forest).mp stays).2 inside
        simp [inside, gone]
      · have stays := (isLive_destroy_iff forest).mpr ⟨live, inside⟩
        have left : node.children.filter (tree.destroy root).tree.isLive =
            Stacking.without node.children root := by
          apply List.filter_congr
          intro child member
          exact isLive_destroy_child forest inside (children_of_node? found ▸ member)
        rw [if_pos stays, if_neg inside, Option.map_some, Option.map_some, Node.keeping, left,
          forest.without_children found]
        split <;> rfl

theorem order_destroy (forest : tree.Forest) (root : WindowId) :
    (tree.destroy root).tree.order = Stacking.without tree.order root := by
  rw [(leaves_destroy forest root).order]
  apply List.filter_congr
  intro other member
  obtain ⟨flag, isTopLevel⟩ := (forest.listed other).mp member
  refine isLive_destroy_parentless forest ?_ (forest.anchored other _ isTopLevel (by simp))
  rw [isLive_eq_kind?, isTopLevel]
  rfl

theorem desktop_destroy (forest : tree.Forest) (root : WindowId) :
    (tree.destroy root).tree.desktop =
      if tree.desktop = some root then none else tree.desktop := by
  have afterForest := forest.ofEvolves (destroy_evolves forest root)
  refine Option.ext fun other => ?_
  rw [afterForest.desktop, kind?_eq_record?, record?_destroy forest]
  by_cases isDesktop : tree.desktop = some other
  · have kind := (forest.desktop other).mp isDesktop
    have noneAbove := forest.ancestors_of_root (forest.anchored other _ kind (by simp))
    rw [kind?_eq_record?] at kind
    by_cases isRoot : other = root <;> simp [isDesktop, isRoot, noneAbove, kind]
  · have otherKind : (tree.record? other).map Node.kind ≠ some .desktop := fun kind =>
      isDesktop ((forest.desktop other).mpr ((kind?_eq_record? tree other).trans kind))
    split <;> split <;> simp_all

/-- A dead window is gone already. -/
theorem destroy_of_dead (dead : ¬ tree.isLive id = true) : tree.destroy id = { tree } := by
  rw [destroy, subtree_of_dead dead]
  rfl

/-! ## The calls -/

/-- What a window tells about its surfaces when it goes. -/
def farewell (tree : Tree) (id : WindowId) : List Call :=
  ([.whole, .client].filter fun kind => (tree.binding? id kind).isSome).map fun kind =>
    .surfaceChanged id none kind.isClient

theorem releaseCalls_eq_farewell (stored : tree.Stored) {node : Node}
    (found : tree.node? id = some node) : releaseCalls node = tree.farewell id := by
  have own : node.id = id := stored id node found
  simp [farewell, binding?_of_node? found, releaseCalls, Surface.Slots.bound, own]

theorem calls_destroyOne_eq (stored : tree.Stored) (id : WindowId) :
    (tree.destroyOne id).calls = tree.farewell id := by
  rw [calls_destroyOne]
  cases found : tree.node? id with
  | none => simp [farewell, binding?, found]
  | some node => exact releaseCalls_eq_farewell stored found

theorem farewell_destroyOne (different : other ≠ id) :
    (tree.destroyOne id).tree.farewell other = tree.farewell other := by
  simp only [farewell, binding?_eq_record?, record?_destroyOne, if_neg different]

theorem Stored.destroyOne (stored : tree.Stored) (id : WindowId) :
    (tree.destroyOne id).tree.Stored := by
  intro other node found
  have recorded := record?_of_node? found
  rw [record?_destroyOne] at recorded
  split at recorded
  · cases recorded
  · obtain ⟨former, formerFound, same⟩ := Option.map_eq_some_iff.mp recorded
    exact (congrArg Node.id same).symm.trans (stored other former formerFound)

/-- Windows that go one after the other say what they would have said at the beginning. -/
theorem calls_destroyAll {windows : List WindowId} (distinct : windows.Nodup) {change : Change}
    (stored : change.tree.Stored) :
    (windows.foldl (fun change window => change.followedBy (·.destroyOne window)) change).calls =
      change.calls ++ windows.flatMap change.tree.farewell := by
  induction windows generalizing change with
  | nil => simp
  | cons window rest inductionHypothesis =>
      obtain ⟨notLater, restDistinct⟩ := List.nodup_cons.mp distinct
      have later : rest.flatMap (change.tree.destroyOne window).tree.farewell =
          rest.flatMap change.tree.farewell := by
        apply List.flatMap_congr
        intro other member
        exact farewell_destroyOne fun isWindow => notLater (isWindow ▸ member)
      have laterStored : (change.followedBy (·.destroyOne window)).tree.Stored :=
        stored.destroyOne window
      rw [List.foldl_cons, inductionHypothesis restDistinct laterStored]
      show change.calls ++ (change.tree.destroyOne window).calls ++
        rest.flatMap (change.tree.destroyOne window).tree.farewell = _
      rw [later, calls_destroyOne_eq stored, List.flatMap_cons, List.append_assoc]

/-- Every window of the subtree tells about its own surfaces, in the order of the list. -/
theorem calls_destroy (forest : tree.Forest) (root : WindowId) :
    (tree.destroy root).calls = (tree.subtree root).flatMap tree.farewell :=
  calls_destroyAll (nodup_subtree forest root) forest.stored

end Tree

end WindowRelay
