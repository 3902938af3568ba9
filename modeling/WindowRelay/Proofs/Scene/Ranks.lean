import Mathlib.Data.Finset.Basic
import WindowRelay.Proofs.Scene.Realignment
import WindowRelay.Proofs.Tree.Outline

/-!
Contract: children that are attached and detached one at a time.

Owns:
- what one insertion and one removal make of a client container with reserved entries in front;
- a child is attached at its place among the attached children of its parent, and detached without
  moving the others.

Does not own: the rank in a list of siblings (`Stacking.insertIdx_rank`).

The rank of a child is counted in the container as it was, where the child may stand already, and
is used in the container without it. The two differ only in front of the child, which the rank does
not count. Nothing is asked of the tree beyond the one list of children: its other links may
contradict each other, and the parent may list children that have no window.
-/

namespace WindowRelay

namespace Scene

variable {scene : Scene} {parent id : WindowId} {view : View} {reserved : Nat}

/-! ## One client container -/

theorem view?_withWindows (found : scene.view? parent = some view) (windows : List WindowId)
    (reserved : Nat) :
    (scene.withWindows parent windows reserved).view? parent =
      some { view with stack := View.layered windows reserved } := by
  rw [withWindows, view?_updateView, if_pos rfl, found]
  rfl

theorem view?_withWindows_of_ne {other : WindowId} (different : other ≠ parent)
    (windows : List WindowId) (reserved : Nat) :
    (scene.withWindows parent windows reserved).view? other = scene.view? other := by
  rw [withWindows, view?_updateView, if_neg different]

theorem insert_client_eq (found : scene.view? parent = some view)
    (stack : view.stack = View.layered view.windows reserved) (id : WindowId) (index : Nat) :
    scene.insert (.client parent) id index =
      scene.withWindows parent
        ((Stacking.without view.windows id).insertIdx
          (min index (Stacking.without view.windows id).length) id) reserved := by
  refine updateView_congr parent fun other isOther => ?_
  obtain rfl : view = other := Option.some.inj (found.symm.trans isOther)
  rw [← View.stack_insert stack id index]
  rfl

theorem remove_client_eq (found : scene.view? parent = some view)
    (stack : view.stack = View.layered view.windows reserved) (id : WindowId) :
    scene.remove (.client parent) id =
      scene.withWindows parent (Stacking.without view.windows id) reserved := by
  refine updateView_congr parent fun other isOther => ?_
  obtain rfl : view = other := Option.some.inj (found.symm.trans isOther)
  rw [← View.stack_remove stack id]
  rfl

/-- A host in which one client container was filled anew: it holds these windows behind its
reserved entries, and nothing else is different. -/
structure Refilled (before after : Scene) (parent : WindowId) (windows : List WindowId)
    (reserved : Nat) : Prop where
  children : after.children (.client parent) = windows
  stack : after.stack parent = windows.map .window ++ List.replicate reserved .content
  otherChildren : ∀ container, container ≠ .client parent →
    after.children container = before.children container
  otherStacks : ∀ other, other ≠ parent → after.stack other = before.stack other
  rest : after = before.withWindows parent windows reserved

theorem refilled_withWindows (found : scene.view? parent = some view) (windows : List WindowId)
    (reserved : Nat) :
    Refilled scene (scene.withWindows parent windows reserved) parent windows reserved where
  children := by
    rw [children_client_eq, view?_withWindows found]
    exact View.windowsOf_layered windows reserved
  stack := by
    rw [stack, view?_withWindows found]
    rfl
  otherChildren container different := by
    cases container with
    | desktop => rfl
    | client other =>
        have notParent : other ≠ parent := fun same => different (congrArg Container.client same)
        rw [children_client_eq, children_client_eq, view?_withWindows_of_ne notParent]
  otherStacks other different := by
    rw [stack, stack, view?_withWindows_of_ne different]
  rest := rfl

/-! ## One child -/

section OneChild

variable {tree : Tree} {shown : Finset WindowId}

theorem refilled_attach (distinct : (tree.children parent).Nodup)
    (found : scene.view? parent = some view)
    (stack : view.stack = View.layered view.windows reserved)
    (attached : view.windows = (tree.children parent).filter (· ∈ shown))
    (link : tree.parent? id = some parent) (listed : id ∈ tree.children parent) :
    Refilled scene (scene.performAll (tree.attachCommands id)) parent
      ((tree.children parent).filter (· ∈ shown ∪ {id})) reserved := by
  obtain ⟨node, nodeFound, -⟩ := Tree.mem_children_iff.mp listed
  have siblings : node.children = tree.children parent := (Tree.children_of_node? nodeFound).symm
  have commands : tree.attachCommands id =
      [.attach parent id ((tree.children parent).takeWhile (· != id))] := by
    simp only [Tree.attachCommands, link, nodeFound, siblings]
  have there : scene.children (.client parent) = (tree.children parent).filter (· ∈ shown) := by
    rw [children_client_eq, found, ← attached]
    rfl
  have ranked := Stacking.insertIdx_rank distinct listed fun other => decide (other ∈ shown)
  have wanted : (tree.children parent).filter
      (fun other => other == id || decide (other ∈ shown)) =
        (tree.children parent).filter (· ∈ shown ∪ {id}) := by
    apply List.filter_congr
    intro other _
    rw [Bool.eq_iff_iff, Bool.or_eq_true, beq_iff_eq, decide_eq_true_iff, decide_eq_true_iff,
      Finset.mem_union, Finset.mem_singleton, or_comm]
  have inserted : scene.performAll (tree.attachCommands id) =
      scene.withWindows parent ((tree.children parent).filter (· ∈ shown ∪ {id})) reserved := by
    rw [commands, performAll_cons, performAll_nil, perform, attach, there,
      insert_client_eq found stack, attached, ← wanted, ← ranked]
  rw [inserted]
  exact refilled_withWindows found _ _

theorem refilled_detach (found : scene.view? parent = some view)
    (stack : view.stack = View.layered view.windows reserved)
    (attached : view.windows = (tree.children parent).filter (· ∈ shown))
    (link : tree.parent? id = some parent) :
    Refilled scene (scene.performAll (tree.detachCommands id)) parent
      ((tree.children parent).filter (· ∈ shown \ {id})) reserved := by
  have left : Stacking.without view.windows id =
      (tree.children parent).filter (· ∈ shown \ {id}) := by
    rw [attached, Stacking.without, List.filter_filter]
    apply List.filter_congr
    intro other _
    rw [Bool.eq_iff_iff]
    simp [and_comm]
  have commands : tree.detachCommands id = [.remove (.client parent) id] := by
    simp only [Tree.detachCommands, link]
  have removed : scene.performAll (tree.detachCommands id) =
      scene.withWindows parent ((tree.children parent).filter (· ∈ shown \ {id})) reserved := by
    rw [commands, performAll_cons, performAll_nil, perform, remove_client_eq found stack, left]
  rw [removed]
  exact refilled_withWindows found _ _

end OneChild

/-- In any host whose views were built by operations, where the container of a parent holds some of
its children in their order: attaching a child adds it at its place in that order, or leaves it
where it stands, and detaching takes it out. No other container changes, and the reserved entry
stays in front. -/
theorem refilled_by_rank (tree : Tree) (reserveFront : Bool) (operations : List Operation)
    (parent id : WindowId) (shown : Finset WindowId)
    (built : scene.views = (operateAll { reserveFront } operations).views)
    (hasViews : scene.hasViews parent = true) (distinct : (tree.children parent).Nodup)
    (attached : scene.children (.client parent) = (tree.children parent).filter (· ∈ shown))
    (link : tree.parent? id = some parent) (listed : id ∈ tree.children parent) :
    Refilled scene (scene.performAll (tree.attachCommands id)) parent
        ((tree.children parent).filter (· ∈ shown ∪ {id})) reserveFront.toNat ∧
      Refilled scene (scene.performAll (tree.detachCommands id)) parent
        ((tree.children parent).filter (· ∈ shown \ {id})) reserveFront.toNat := by
  have orderly := (orderly_fresh reserveFront).operateAll operations
  rw [hasViews_eq] at hasViews
  obtain ⟨view, found⟩ := Option.isSome_iff_exists.mp hasViews
  have stack : view.stack = View.layered view.windows reserveFront.toNat := by
    have fronted := orderly.fronted parent view
    rw [reserveFront_operateAll] at fronted
    apply fronted
    rw [view?, ← built]
    exact found
  have windows : view.windows = (tree.children parent).filter (· ∈ shown) := by
    rw [← attached, children_client_eq, found]
    rfl
  exact ⟨refilled_attach distinct found stack windows link listed,
    refilled_detach found stack windows link⟩

/-- A window with four children, of which two are attached in the given host. -/
def rankedTree : Tree :=
  let child (id : WindowId) : Node := { id, kind := .child, parent := some 10 }
  let above : Node := { id := 10, kind := .topLevel false, children := [13, 11, 12, 14] }
  [above, child 11, child 12, child 13, child 14].foldl Tree.addNode { order := [10] }

def rankedOperations : List Operation :=
  [.createViews 10, .insert (.client 10) 14 0, .insert (.client 10) 13 0]

theorem refilled_by_rank_in_rankedTree :
    let scene := operateAll { reserveFront := true } rankedOperations
    scene.hasViews 10 = true ∧ (rankedTree.children 10).Nodup ∧
      scene.children (.client 10) = [13, 14] ∧ rankedTree.parent? 12 = some 10 ∧
      Refilled scene (scene.performAll (rankedTree.attachCommands 12)) 10 [13, 12, 14] 1 ∧
      Refilled scene (scene.performAll (rankedTree.detachCommands 12)) 10 [13, 14] 1 := by
  intro scene
  have hasViews : scene.hasViews 10 = true := by decide
  have distinct : (rankedTree.children 10).Nodup := by decide
  have attached : scene.children (.client 10) =
      (rankedTree.children 10).filter (· ∈ ({13, 14} : Finset WindowId)) := by decide
  have link : rankedTree.parent? 12 = some 10 := by decide
  have ranked := refilled_by_rank rankedTree true rankedOperations 10 12 {13, 14} rfl hasViews
    distinct attached link (by decide)
  exact ⟨hasViews, distinct, attached, link, ranked⟩

/-- A child that stands in the container already keeps its place. -/
example : ((operateAll { reserveFront := true } rankedOperations).performAll
    (rankedTree.attachCommands 13)).stack 10 = [.window 13, .window 14, .content] := by
  decide

end Scene

end WindowRelay
