import WindowRelay.Proofs.Tree.Refusals
import WindowRelay.Proofs.Tree.Teardown

/-!
Contract: the list of the windows of a subtree.

Owns:
- the list follows the child lists, whatever bound the walk is given;
- every window is listed once;
- trees that agree on the windows of a subtree and on their children list it alike.

The walk is cut at the number of windows. Every window stands less deep than that, so more levels
find nothing new; this is what lets the bound disappear from the equations.
-/

namespace WindowRelay

namespace Tree

variable {tree before after : Tree} {id root : WindowId}

theorem subtreeWithin_of_dead (dead : ¬ tree.isLive id = true) (levels : Nat) :
    tree.subtreeWithin levels id = [] := by
  cases levels with
  | zero => rfl
  | succ levels => rw [subtreeWithin, if_neg dead]

theorem subtree_of_dead (dead : ¬ tree.isLive id = true) : tree.subtree id = [] :=
  subtreeWithin_of_dead dead tree.size

/-- Levels beyond the number of windows find nothing new. -/
theorem subtreeWithin_of_le (forest : tree.Forest) {levels more : Nat}
    (enough : tree.size ≤ levels + (tree.ancestors id).length) (isMore : levels ≤ more) :
    tree.subtreeWithin more id = tree.subtreeWithin levels id := by
  induction levels generalizing id more with
  | zero =>
      have dead : ¬ tree.isLive id = true := fun live => by
        have inside := forest.length_ancestors_lt live
        omega
      exact subtreeWithin_of_dead dead more
  | succ levels inductionHypothesis =>
      obtain ⟨fewer, rfl⟩ : ∃ fewer, more = fewer + 1 := ⟨more - 1, by omega⟩
      have below : (tree.children id).reverse.flatMap (tree.subtreeWithin fewer) =
          (tree.children id).reverse.flatMap (tree.subtreeWithin levels) := by
        apply List.flatMap_congr
        intro child member
        have depth := forest.length_ancestors_of_mem_children (List.mem_reverse.mp member)
        exact inductionHypothesis (by omega) (by omega)
      rw [subtreeWithin, subtreeWithin, below]

theorem subtree_eq_within (forest : tree.Forest) {levels : Nat} (enough : tree.size ≤ levels)
    (id : WindowId) : tree.subtree id = tree.subtreeWithin levels id :=
  (subtreeWithin_of_le forest (Nat.le_add_right _ _) enough).symm

/-- The subtrees of the children, that of the front-most child first, and then the window. -/
theorem subtree_of_live (forest : tree.Forest) (live : tree.isLive id = true) :
    tree.subtree id = (tree.children id).reverse.flatMap tree.subtree ++ [id] := by
  rw [subtree_eq_within forest (Nat.le_succ tree.size), subtreeWithin, if_pos live]
  rfl

theorem mem_subtree_self (forest : tree.Forest) (live : tree.isLive id = true) :
    id ∈ tree.subtree id :=
  (mem_subtree_iff forest).mpr ⟨live, .inl rfl⟩

/-- The windows of a subtree are its root and all windows that descend from it. -/
theorem mem_subtree_iff_descends (forest : tree.Forest) (live : tree.isLive root = true) :
    id ∈ tree.subtree root ↔ id = root ∨ tree.Descends root id := by
  rw [mem_subtree_iff forest, mem_ancestors_iff forest]
  constructor
  · exact And.right
  · rintro (rfl | descends)
    · exact ⟨live, .inl rfl⟩
    · exact ⟨isLive_of_descends forest descends, .inr descends⟩

theorem mem_subtree_of_child (forest : tree.Forest) {child : WindowId}
    (member : id ∈ tree.subtree root) (isChild : child ∈ tree.children id) :
    child ∈ tree.subtree root :=
  (childrenFirst_subtree forest root).closed member isChild

/-- A child of a window outside a subtree is outside as well, unless it is the root. -/
theorem eq_root_of_child (forest : tree.Forest) {child : WindowId}
    (outside : id ∉ tree.subtree root) (isChild : child ∈ tree.children id)
    (member : child ∈ tree.subtree root) : child = root := by
  have link := (forest.links.linked child id).mpr isChild
  refine ((mem_subtree_iff forest).mp member).2.resolve_right fun below => outside ?_
  rw [forest.ancestors_of_parent? link, List.mem_cons] at below
  exact (mem_subtree_iff forest).mpr
    ⟨(forest.isLive_of_child link).2, below.imp_left Eq.symm⟩

/-! ## Once each -/

theorem nodup_subtreeWithin (forest : tree.Forest) (levels : Nat) (id : WindowId) :
    (tree.subtreeWithin levels id).Nodup := by
  induction levels generalizing id with
  | zero => exact List.nodup_nil
  | succ levels inductionHypothesis =>
      unfold subtreeWithin
      split
      · have within : ∀ child window, window ∈ tree.subtreeWithin levels child →
            child ∈ window :: tree.ancestors window := fun child window inside =>
          List.mem_cons.mpr ((eq_or_below_of_mem_subtreeWithin forest inside).imp_left Eq.symm)
        have linkOf : ∀ child ∈ (tree.children id).reverse, tree.parent? child = some id :=
          fun child member => (forest.links.linked child id).mpr (List.mem_reverse.mp member)
        refine List.nodup_append.mpr ⟨List.nodup_flatMap.mpr
          ⟨fun child _ => inductionHypothesis child, ?_⟩, List.nodup_singleton id, ?_⟩
        · refine List.Pairwise.imp_of_mem ?_ (List.nodup_reverse.mpr (forest.links.distinct id))
          intro first second firstMember secondMember different window inFirst inSecond
          exact different ((forest.ascent_ancestors window).eq_of_same_parent
            (within first window inFirst) (within second window inSecond)
            (linkOf first firstMember) (linkOf second secondMember))
        · rintro window inside other isOther rfl
          rw [List.mem_singleton] at isOther
          subst isOther
          obtain ⟨child, member, inChild⟩ := List.mem_flatMap.mp inside
          have ascent := forest.ascent_ancestors window
          exact (List.nodup_cons.mp ascent.nodup).1
            (ascent.parent_mem_of_mem_cons (linkOf child member) (within child window inChild))
      · exact List.nodup_nil

theorem nodup_subtree (forest : tree.Forest) (id : WindowId) : (tree.subtree id).Nodup :=
  nodup_subtreeWithin forest tree.size id

/-! ## Trees that agree on a subtree -/

theorem subtree_congr (beforeForest : before.Forest) (afterForest : after.Forest)
    (rootLive : before.isLive root = true)
    (live : ∀ window ∈ before.subtree root, after.isLive window = true)
    (lists : ∀ window ∈ before.subtree root, after.children window = before.children window) :
    after.subtree root = before.subtree root := by
  have alike : ∀ levels, ∀ window ∈ before.subtree root,
      after.subtreeWithin levels window = before.subtreeWithin levels window := by
    intro levels
    induction levels with
    | zero => exact fun _ _ => rfl
    | succ levels inductionHypothesis =>
        intro window member
        rw [subtreeWithin, subtreeWithin, if_pos (live window member),
          if_pos (isLive_of_mem_subtreeWithin member), lists window member]
        congr 1
        apply List.flatMap_congr
        intro child isChild
        exact inductionHypothesis child
          (mem_subtree_of_child beforeForest member (List.mem_reverse.mp isChild))
  rw [subtree_eq_within afterForest (Nat.le_max_right before.size after.size),
    alike _ root (mem_subtree_self beforeForest rootLive),
    ← subtree_eq_within beforeForest (Nat.le_max_left before.size after.size)]

end Tree

end WindowRelay
