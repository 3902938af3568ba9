import WindowRelay.Proofs.Scene.Operations
import WindowRelay.Tree.Basic

/-!
Contract: containers that are brought in line with a tree, whatever they held before.

Owns:
- what the alignment of the desktop container and of a client container makes of a scene;
- the aligned container shows the windows of the tree in their order and leaves other windows as
  they stood; a second alignment changes nothing, and that of the desktop raises nothing.

Does not own: the lists behind it (`Stacking.Realigned`).

The container may lack windows, and may hold windows that are hidden by now or that the tree never
had. That nothing stands in it twice, and that the reserved entry stands in front, comes from the
operations that build a host.
-/

namespace WindowRelay

namespace Scene

variable {scene : Scene} {parent : WindowId} {view : View} {reserved : Nat}

theorem alignDesktop_eq (scene : Scene) (wanted : List WindowId) :
    scene.alignDesktop wanted =
      { scene with desktop :=
          (unmatched wanted scene.desktop).foldl Stacking.raised scene.desktop } :=
  raiseAll_desktop _ scene

/-- A desktop container that shows the wanted windows in their order is left as it is. -/
theorem alignDesktop_eq_self {wanted : List WindowId}
    (inOrder : unmatched wanted scene.desktop = []) : scene.alignDesktop wanted = scene := by
  rw [alignDesktop_eq, inOrder]
  rfl

/-- A client container with other windows behind its reserved entries. -/
def withWindows (scene : Scene) (parent : WindowId) (windows : List WindowId) (reserved : Nat) :
    Scene :=
  scene.updateView parent fun view => { view with stack := View.layered windows reserved }

theorem withWindows_eq_self (found : scene.view? parent = some view)
    (stack : view.stack = View.layered view.windows reserved) :
    scene.withWindows parent view.windows reserved = scene := by
  refine updateView_eq_self parent fun other isOther => ?_
  obtain rfl : view = other := Option.some.inj (found.symm.trans isOther)
  rw [← stack]

theorem alignChildren_eq (found : scene.view? parent = some view)
    (stack : view.stack = View.layered view.windows reserved) (wanted : List WindowId) :
    scene.alignChildren parent wanted =
      scene.withWindows parent
        ((afterCommonStart wanted view.windows).foldl Stacking.raised view.windows) reserved := by
  have there : scene.children (.client parent) = view.windows := by
    rw [children_client_eq, found]
    rfl
  rw [alignChildren, raiseAll_client, there]
  refine updateView_congr parent fun other isOther => ?_
  obtain rfl : view = other := Option.some.inj (found.symm.trans isOther)
  exact View.foldl_raise stack _

/-- A client container is in line after one alignment, and the second one changes nothing. -/
theorem alignChildren_alignChildren (found : scene.view? parent = some view)
    (stack : view.stack = View.layered view.windows reserved) (distinct : view.windows.Nodup)
    {wanted : List WindowId} (wantedDistinct : wanted.Nodup) :
    (scene.alignChildren parent wanted).alignChildren parent wanted =
      scene.alignChildren parent wanted := by
  have realigned := Stacking.realigned_afterCommonStart distinct wantedDistinct
  have atEnd := Stacking.afterCommonStart_realigned distinct wantedDistinct
  rw [alignChildren_eq found stack]
  generalize (afterCommonStart wanted view.windows).foldl Stacking.raised view.windows = windows
    at realigned atEnd
  let aligned : View := { view with stack := View.layered windows reserved }
  have nowFound : (scene.withWindows parent windows reserved).view? parent = some aligned := by
    rw [withWindows, view?_updateView, if_pos rfl, found]
    rfl
  have nowWindows : aligned.windows = windows := View.windows_of_stack rfl
  have nowStack : aligned.stack = View.layered aligned.windows reserved := by rw [nowWindows]
  rw [alignChildren_eq nowFound nowStack, nowWindows,
    Stacking.foldl_raised_of_suffix realigned.distinct atEnd]
  simpa only [nowWindows] using withWindows_eq_self nowFound nowStack

/-! ## Alignment with a tree -/

theorem realigned_desktop (tree : Tree) (orderDistinct : tree.order.Nodup)
    (distinct : scene.desktop.Nodup) :
    ∃ windows, Stacking.Realigned tree.stackedWindows scene.desktop windows ∧
      scene.perform tree.alignDesktopCommand = { scene with desktop := windows } ∧
      unmatched tree.stackedWindows windows = [] ∧
      (scene.perform tree.alignDesktopCommand).perform tree.alignDesktopCommand =
        scene.perform tree.alignDesktopCommand := by
  have realigned : Stacking.Realigned tree.stackedWindows scene.desktop
      ((unmatched tree.stackedWindows scene.desktop).foldl Stacking.raised scene.desktop) :=
    Stacking.realigned_unmatched distinct (orderDistinct.filter (tree.holds Node.stackedVisible))
  have performed := alignDesktop_eq scene tree.stackedWindows
  generalize (unmatched tree.stackedWindows scene.desktop).foldl Stacking.raised scene.desktop =
    windows at realigned performed
  have inOrder : unmatched tree.stackedWindows windows = [] :=
    Stacking.unmatched_of_sublist (realigned.inOrder ▸ List.filter_sublist)
  have again : (scene.alignDesktop tree.stackedWindows).alignDesktop tree.stackedWindows =
      scene.alignDesktop tree.stackedWindows := by
    rw [performed]
    exact alignDesktop_eq_self inOrder
  exact ⟨windows, realigned, performed, inOrder, again⟩

theorem realigned_client (tree : Tree) (childrenDistinct : (tree.children parent).Nodup)
    (found : scene.view? parent = some view) (distinct : view.windows.Nodup)
    (stack : view.stack = View.layered view.windows reserved) :
    ∃ windows, Stacking.Realigned (tree.visibleChildren parent) view.windows windows ∧
      scene.performAll (tree.alignChildrenCommands parent) =
        scene.withWindows parent windows reserved ∧
      (scene.performAll (tree.alignChildrenCommands parent)).performAll
          (tree.alignChildrenCommands parent) =
        scene.performAll (tree.alignChildrenCommands parent) := by
  have wantedDistinct := childrenDistinct.filter tree.isVisible
  cases isLive : tree.isLive parent with
  | true =>
      have commands : tree.alignChildrenCommands parent =
          [.alignChildren parent (tree.visibleChildren parent)] := if_pos isLive
      rw [commands]
      exact ⟨_, Stacking.realigned_afterCommonStart distinct wantedDistinct,
        alignChildren_eq found stack _,
        alignChildren_alignChildren found stack distinct wantedDistinct⟩
  | false =>
      -- A window that the tree does not have has no children, and nothing is aligned.
      have commands : tree.alignChildrenCommands parent = [] := by
        simp [Tree.alignChildrenCommands, isLive]
      have noNode : tree.node? parent = none := by
        simpa [Tree.isLive, Table.contains, Tree.node?] using isLive
      have noChildren : tree.visibleChildren parent = [] := by
        simp [Tree.visibleChildren, Tree.children, noNode]
      rw [commands, noChildren]
      refine ⟨view.windows, ?_, (withWindows_eq_self found stack).symm, rfl⟩
      exact Stacking.realigned_raise distinct List.nodup_nil (List.nil_sublist view.windows)

/-- From any scene in which nothing stands twice in the desktop container, the desktop is brought in
line: the visible windows of the order that are not minimized stand as in the order, every other
window as before, and nothing but this container changes; a second alignment finds all windows in
order, raises none and changes nothing. The same holds of a client container with its visible children, in any host
that operations build: the reserved entry stays in front, and a second alignment changes nothing. -/
theorem realigned_from_any_scene (tree : Tree) :
    (∀ scene : Scene, tree.order.Nodup → scene.desktop.Nodup →
      ∃ windows, Stacking.Realigned tree.stackedWindows scene.desktop windows ∧
        scene.perform tree.alignDesktopCommand = { scene with desktop := windows } ∧
        unmatched tree.stackedWindows windows = [] ∧
        (scene.perform tree.alignDesktopCommand).perform tree.alignDesktopCommand =
          scene.perform tree.alignDesktopCommand) ∧
    ∀ reserveFront operations parent,
      let scene := operateAll { reserveFront } operations
      (tree.children parent).Nodup → scene.hasViews parent = true →
      ∃ windows,
        Stacking.Realigned (tree.visibleChildren parent) (scene.children (.client parent))
          windows ∧
        scene.performAll (tree.alignChildrenCommands parent) =
          scene.withWindows parent windows reserveFront.toNat ∧
        (scene.performAll (tree.alignChildrenCommands parent)).performAll
            (tree.alignChildrenCommands parent) =
          scene.performAll (tree.alignChildrenCommands parent) := by
  refine ⟨fun scene => realigned_desktop tree, ?_⟩
  intro reserveFront operations parent scene childrenDistinct hasViews
  have orderly : scene.Orderly := (orderly_fresh reserveFront).operateAll operations
  have sameReserve : scene.reserveFront = reserveFront :=
    reserveFront_operateAll { reserveFront } operations
  rw [hasViews_eq] at hasViews
  obtain ⟨view, found⟩ := Option.isSome_iff_exists.mp hasViews
  have windows : scene.children (.client parent) = view.windows := by
    rw [children_client_eq, found]
    rfl
  have distinct : view.windows.Nodup := windows ▸ orderly.nodup_children (.client parent)
  have stack := orderly.fronted parent view found
  rw [sameReserve] at stack
  rw [windows]
  exact realigned_client tree childrenDistinct found distinct stack

/-- Four top-level windows, one of them hidden and one minimized. The first one has three children,
and one of these is hidden. -/
def mixedTree : Tree :=
  let topLevel (id : WindowId) (style : UInt32) : Node :=
    { id, kind := .topLevel false, style := ⟨style⟩ }
  let child (id : WindowId) (style : UInt32) : Node :=
    { id, kind := .child, parent := some 1, style := ⟨style⟩ }
  let front : Node := { topLevel 1 Style.visible with children := [6, 7, 8] }
  let nodes := [front, topLevel 2 0, topLevel 3 (Style.visible ||| Style.minimize),
    topLevel 4 Style.visible, child 6 Style.visible, child 7 0, child 8 Style.visible]
  nodes.foldl Tree.addNode { order := [1, 2, 3, 4] }

/-- A host that shows the windows in another order, and a foreign one among them; the client
container of the first window holds all three children in another order, and a foreign window. -/
def strayOperations : List Operation :=
  [.createViews 1, .bringToFront .desktop 4, .bringToFront .desktop 9, .bringToFront .desktop 3,
    .bringToFront .desktop 1, .bringToFront .desktop 2, .bringToFront (.client 1) 8,
    .bringToFront (.client 1) 7, .bringToFront (.client 1) 20, .bringToFront (.client 1) 6]

def strayScene : Scene :=
  operateAll { reserveFront := true } strayOperations

/-- One window is raised in the desktop container, and both visible children are; a second time
nothing changes. -/
theorem realigned_from_strayScene :
    mixedTree.order.Nodup ∧ strayScene.desktop.Nodup ∧ (mixedTree.children 1).Nodup ∧
      strayScene.hasViews 1 = true ∧
      (Stacking.Realigned [1, 4] [4, 9, 3, 1, 2] [9, 3, 1, 2, 4] ∧
        strayScene.perform mixedTree.alignDesktopCommand =
          { strayScene with desktop := [9, 3, 1, 2, 4] } ∧
        (strayScene.perform mixedTree.alignDesktopCommand).perform mixedTree.alignDesktopCommand =
          { strayScene with desktop := [9, 3, 1, 2, 4] }) ∧
      ∃ children, Stacking.Realigned [6, 8] [8, 7, 20, 6] children ∧
        strayScene.performAll (mixedTree.alignChildrenCommands 1) =
          strayScene.withWindows 1 children 1 ∧
        (strayScene.performAll (mixedTree.alignChildrenCommands 1)).performAll
            (mixedTree.alignChildrenCommands 1) =
          strayScene.withWindows 1 children 1 := by
  have orderDistinct : mixedTree.order.Nodup := by decide
  have distinct : strayScene.desktop.Nodup := by decide
  have childrenDistinct : (mixedTree.children 1).Nodup := by decide
  have hasViews : strayScene.hasViews 1 = true := by decide
  obtain ⟨forDesktop, forChildren⟩ := realigned_from_any_scene mixedTree
  obtain ⟨windows, realigned, performed, -, again⟩ := forDesktop strayScene orderDistinct distinct
  obtain ⟨children, childrenRealigned, childrenPerformed, childrenAgain⟩ :=
    forChildren true strayOperations 1 childrenDistinct hasViews
  have onDesktop :
      (strayScene.perform mixedTree.alignDesktopCommand).desktop = [9, 3, 1, 2, 4] := by decide
  rw [performed] at onDesktop
  obtain rfl : windows = [9, 3, 1, 2, 4] := onDesktop
  exact ⟨orderDistinct, distinct, childrenDistinct, hasViews,
    ⟨realigned, performed, again.trans performed⟩, children, childrenRealigned,
    childrenPerformed, childrenAgain.trans childrenPerformed⟩

end Scene

end WindowRelay
