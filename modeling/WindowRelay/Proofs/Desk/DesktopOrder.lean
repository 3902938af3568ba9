import WindowRelay.Proofs.Stacking.Alignment
import WindowRelay.Proofs.Tree.Position

/-!
Contract: the desktop container beside the top-level order.

Owns:
- the container holds the windows of the order once each, and shows those that are visible and not
  minimized in the same order;
- what keeps that agreement: a window that goes, a hidden window that comes at the back, and the
  alignment of the container with any order of the same windows.

Hidden and minimized windows may stand anywhere in the container; nothing is said about them beyond
their being there.
-/

namespace WindowRelay

/-- The desktop container holds the windows of the order, those on show in the same order. -/
structure InStep (tree : Tree) (desktop : List WindowId) : Prop where
  distinct : desktop.Nodup
  sameWindows : desktop.Perm tree.order
  inOrder : desktop.filter (tree.holds Node.stackedVisible) = tree.stackedWindows

namespace InStep

variable {before after : Tree} {desktop : List WindowId} {id : WindowId}

/-- Nothing changes for the windows of the order. -/
theorem congr (inStep : InStep before desktop) (order : after.order = before.order)
    (onShow : ∀ other ∈ before.order,
      after.holds Node.stackedVisible other = before.holds Node.stackedVisible other) :
    InStep after desktop where
  distinct := inStep.distinct
  sameWindows := order ▸ inStep.sameWindows
  inOrder := by
    have sameFront : after.stackedWindows = before.stackedWindows := by
      unfold Tree.stackedWindows
      rw [order]
      exact List.filter_congr onShow
    have sameDesktop : desktop.filter (after.holds Node.stackedVisible) =
        desktop.filter (before.holds Node.stackedVisible) :=
      List.filter_congr fun other member => onShow other (inStep.sameWindows.mem_iff.mp member)
    rw [sameFront, sameDesktop, inStep.inOrder]

private theorem filter_without (windows : List WindowId) (shown : WindowId → Bool) (id : WindowId) :
    (Stacking.without windows id).filter shown = Stacking.without (windows.filter shown) id :=
  List.filter_comm ..

/-- One window goes. -/
theorem without (inStep : InStep before desktop)
    (order : after.order = Stacking.without before.order id)
    (onShow : ∀ other, other ≠ id →
      after.holds Node.stackedVisible other = before.holds Node.stackedVisible other) :
    InStep after (Stacking.without desktop id) where
  distinct := Stacking.nodup_without id inStep.distinct
  sameWindows := order ▸ inStep.sameWindows.filter _
  inOrder := by
    have agree : ∀ windows : List WindowId,
        (Stacking.without windows id).filter (after.holds Node.stackedVisible) =
          Stacking.without (windows.filter (before.holds Node.stackedVisible)) id := by
      intro windows
      rw [← filter_without]
      exact List.filter_congr fun other member => onShow other (Stacking.mem_without.mp member).2
    unfold Tree.stackedWindows
    rw [order, agree, agree, inStep.inOrder]
    rfl

/-- A window that is not on show comes at the back, or moves there. -/
theorem atBack (inStep : InStep before desktop)
    (order : after.order = id :: Stacking.without before.order id)
    (hidden : after.holds Node.stackedVisible id = false)
    (onShow : ∀ other, other ≠ id →
      after.holds Node.stackedVisible other = before.holds Node.stackedVisible other) :
    InStep after (id :: Stacking.without desktop id) where
  distinct := List.nodup_cons.mpr
    ⟨Stacking.not_mem_without desktop id, Stacking.nodup_without id inStep.distinct⟩
  sameWindows := order ▸ (inStep.sameWindows.filter _).cons id
  inOrder := by
    have rest : InStep { after with order := Stacking.without before.order id }
        (Stacking.without desktop id) := inStep.without rfl onShow
    have skips : ∀ windows : List WindowId,
        (id :: windows).filter (after.holds Node.stackedVisible) =
          windows.filter (after.holds Node.stackedVisible) :=
      fun windows => List.filter_cons_of_neg (by simp [hidden])
    unfold Tree.stackedWindows
    rw [order, skips, skips]
    exact rest.inOrder

/-- Alignment needs the same windows only. -/
theorem aligned (distinct : desktop.Nodup) (sameWindows : desktop.Perm after.order) :
    InStep after
      ((Scene.unmatched after.stackedWindows desktop).foldl Stacking.raised desktop) := by
  have orderDistinct : after.order.Nodup := sameWindows.nodup_iff.mp distinct
  have wantedDistinct : after.stackedWindows.Nodup := orderDistinct.filter _
  have known : after.stackedWindows ⊆ desktop := fun other member =>
    sameWindows.mem_iff.mpr (List.mem_of_mem_filter member)
  have leftDistinct := Stacking.nodup_unmatched wantedDistinct desktop
  have leftKnown : Scene.unmatched after.stackedWindows desktop ⊆ desktop := fun other member =>
    known (Stacking.unmatched_subset after.stackedWindows desktop member)
  have realigned := Stacking.realigned_unmatched distinct wantedDistinct
  have sameDesktop :
      ((Scene.unmatched after.stackedWindows desktop).foldl Stacking.raised desktop).Perm
        desktop := by
    rw [Stacking.foldl_raised _ leftDistinct]
    exact Stacking.perm_raised distinct leftDistinct leftKnown
  exact
    { distinct := realigned.distinct
      sameWindows := sameDesktop.trans sameWindows
      inOrder := by
        refine Eq.trans (List.filter_congr fun other member => ?_) realigned.inOrder
        have listed : other ∈ after.order := (sameDesktop.trans sameWindows).mem_iff.mp member
        by_cases onShow : after.holds Node.stackedVisible other = true
        · simp [Tree.stackedWindows, listed, onShow]
        · simp [Tree.stackedWindows, onShow] }

theorem nil : InStep {} [] :=
  ⟨List.nodup_nil, List.Perm.refl [], rfl⟩

end InStep

end WindowRelay
