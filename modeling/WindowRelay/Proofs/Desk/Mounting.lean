import WindowRelay.Proofs.Scene.Containers
import WindowRelay.Proofs.Tree.Forest

/-!
Contract: the host beside a tree, while an event is being carried out.

Owns:
- a description of the host: the windows with views, the children that are attached, the desktop
  container;
- what each command does to that description.

Between two events the attached children are the visible ones. In between, commands detach and
attach one window at a time, and the description says which children are attached by now. What it
says about windows without a parent does not matter, because no container holds them.
-/

namespace WindowRelay

/-- The windows with views are those of `hosted`; each client container holds those children of its
window that are in `shown`, in their order; the desktop container holds `desktop`. -/
structure Mounted (tree : Tree) (scene : Scene) (hosted shown : WindowId → Bool)
    (desktop : List WindowId) : Prop where
  layered : scene.Layered
  hosts : ∀ id, scene.hasViews id = hosted id
  lists : ∀ parent, scene.children (.client parent) = (tree.children parent).filter shown
  desktop : scene.children .desktop = desktop

namespace Mounted

variable {tree after : Tree} {scene last : Scene} {hosted hosted' shown shown' : WindowId → Bool}
  {desktop : List WindowId} {id parent : WindowId}

theorem sameContainers (mounted : Mounted tree scene hosted shown desktop)
    (same : Scene.SameContainers scene last) : Mounted tree last hosted shown desktop where
  layered := same.layered mounted.layered
  hosts other := (same.hasViews other).trans (mounted.hosts other)
  lists other := (same.children (.client other)).trans (mounted.lists other)
  desktop := (same.children .desktop).trans mounted.desktop

theorem quiet (mounted : Mounted tree scene hosted shown desktop) {commands : List Scene.Command}
    (quiet : ∀ command ∈ commands, command.isQuiet = true) :
    Mounted tree (scene.performAll commands) hosted shown desktop :=
  mounted.sameContainers (Scene.sameContainers_performAll scene quiet)

/-- Another tree and other windows on show, as long as each container is to hold the same. -/
theorem retree (mounted : Mounted tree scene hosted shown desktop)
    (lists : ∀ parent,
      (after.children parent).filter shown' = (tree.children parent).filter shown) :
    Mounted after scene hosted shown' desktop :=
  { mounted with lists := fun parent => (mounted.lists parent).trans (lists parent).symm }

/-- What is said about windows without a parent may change. -/
theorem congr (mounted : Mounted tree scene hosted shown desktop) (forest : tree.Forest)
    (sameHosted : ∀ id, hosted' id = hosted id)
    (sameShown : ∀ id parent, tree.parent? id = some parent → shown' id = shown id) :
    Mounted tree scene hosted' shown' desktop where
  layered := mounted.layered
  hosts other := (mounted.hosts other).trans (sameHosted other).symm
  lists other := by
    rw [mounted.lists other]
    refine List.filter_congr fun child member => (sameShown child other ?_).symm
    exact (forest.links.linked child other).mpr member
  desktop := mounted.desktop

/-! ## Views -/

theorem createViews (mounted : Mounted tree scene hosted shown desktop) (id : WindowId) :
    Mounted tree (scene.createViews id) (fun other => other == id || hosted other) shown
      desktop where
  layered := mounted.layered.createViews id
  hosts other := by rw [Scene.hasViews_createViews, mounted.hosts]
  lists other := by rw [Scene.children_createViews, mounted.lists]
  desktop := by rw [Scene.children_createViews, mounted.desktop]

/-- The views of a window go, and with them the window and its children leave every container. -/
theorem destroyViews (mounted : Mounted tree scene hosted shown desktop) (forest : tree.Forest)
    (id : WindowId) :
    Mounted tree (scene.destroyViews id) (fun other => other != id && hosted other)
      (fun other => other != id && (decide (tree.parent? other ≠ some id) && shown other))
      (Stacking.without desktop id) where
  layered := mounted.layered.destroyViews id
  hosts other := by rw [Scene.hasViews_destroyViews, mounted.hosts]
  lists other := by
    have above : ∀ child ∈ tree.children other, tree.parent? child = some other :=
      fun child member => (forest.links.linked child other).mpr member
    rw [Scene.children_destroyViews, mounted.lists]
    by_cases isId : other = id
    · rw [if_pos (congrArg Container.client isId), eq_comm]
      apply List.filter_eq_nil_iff.mpr
      intro child member
      simp [above child member, isId]
    · rw [if_neg fun same => isId (Container.client.inj same), Stacking.without, List.filter_filter]
      apply List.filter_congr
      intro child member
      simp [above child member, isId]
  desktop := by rw [Scene.children_destroyViews, if_neg (by simp), mounted.desktop]

/-! ## The desktop container -/

theorem removeFromDesktop (mounted : Mounted tree scene hosted shown desktop) (id : WindowId) :
    Mounted tree (scene.remove .desktop id) hosted shown (Stacking.without desktop id) where
  layered := mounted.layered.remove id .desktop
  hosts other := by rw [Scene.hasViews_remove, mounted.hosts]
  lists other := by rw [Scene.children_remove, if_neg (by simp), mounted.lists]
  desktop := by rw [Scene.children_remove, if_pos rfl, mounted.desktop]

theorem insertIntoDesktop (mounted : Mounted tree scene hosted shown desktop) (id : WindowId) :
    Mounted tree (scene.insert .desktop id 0) hosted shown
      (id :: Stacking.without desktop id) where
  layered := mounted.layered.insert id .desktop 0
  hosts other := by rw [Scene.hasViews_insert, mounted.hosts]
  lists other := by
    rw [Scene.children_insert id _ mounted.layered rfl, if_neg (by simp), mounted.lists]
  desktop := by
    rw [Scene.children_insert id _ mounted.layered rfl, if_pos rfl, mounted.desktop]
    simp

theorem alignDesktop (mounted : Mounted tree scene hosted shown desktop)
    (wanted : List WindowId) :
    Mounted tree (scene.alignDesktop wanted) hosted shown
      ((Scene.unmatched wanted desktop).foldl Stacking.raised desktop) where
  layered := mounted.layered.raiseAll .desktop _
  hosts other := (Scene.hasViews_raiseAll scene other .desktop _).trans (mounted.hosts other)
  lists other := by
    unfold Scene.alignDesktop
    rw [Scene.children_raiseAll _ _ mounted.layered rfl, if_neg (by simp), mounted.lists]
  desktop := by
    have there : scene.desktop = desktop := mounted.desktop
    unfold Scene.alignDesktop
    rw [Scene.children_raiseAll _ _ mounted.layered rfl, if_pos rfl, mounted.desktop, there]

/-! ## Client containers -/

private theorem not_mem_other_children (forest : tree.Forest)
    (link : tree.parent? id = some parent) {other : WindowId} (different : other ≠ parent) :
    id ∉ tree.children other :=
  forest.links.not_mem_children_of_ne link different

/-- The view of a child comes into the container of its parent, at the place that it has among its
siblings. -/
theorem attach (mounted : Mounted tree scene hosted shown desktop) (forest : tree.Forest)
    (above : ∀ parent, tree.parent? id = some parent → hosted parent = true) :
    Mounted tree (scene.performAll (tree.attachCommands id)) hosted
      (fun other => other == id || shown other) desktop := by
  unfold Tree.attachCommands
  cases link : tree.parent? id with
  | none =>
      apply mounted.congr forest (fun _ => rfl)
      intro other parent otherLink
      have different : other ≠ id := fun same => by simp [same ▸ link] at otherLink
      simp [different]
  | some parent =>
      obtain ⟨node, found⟩ := Tree.isLive_iff.mp (forest.isLive_of_child link).2
      have isThere : scene.isOpen (.client parent) = true :=
        (mounted.hosts parent).trans (above parent link)
      have member : id ∈ tree.children parent := (forest.links.linked id parent).mp link
      simp only [found, Scene.performAll_cons, Scene.performAll_nil]
      rw [← Tree.children_of_node? found]
      exact
        { layered := mounted.layered.insert id _ _
          hosts := fun other =>
            (Scene.hasViews_insert scene id other _ _).trans (mounted.hosts other)
          lists := fun other => by
            refine (Scene.children_insert id _ mounted.layered isThere _).trans ?_
            by_cases isParent : other = parent
            · rw [if_pos (congrArg Container.client isParent), isParent, mounted.lists]
              exact Stacking.insertIdx_rank (forest.links.distinct parent) member shown
            · have absent := not_mem_other_children forest link isParent
              rw [if_neg fun same => isParent (Container.client.inj same), mounted.lists]
              apply List.filter_congr
              intro child inOther
              have different : child ≠ id := fun same => absent (same ▸ inOther)
              simp [different]
          desktop := (Scene.children_insert id _ mounted.layered isThere _).trans mounted.desktop }

/-- The view of a child leaves the container of its parent. -/
theorem detach (mounted : Mounted tree scene hosted shown desktop) (forest : tree.Forest)
    (id : WindowId) :
    Mounted tree (scene.performAll (tree.detachCommands id)) hosted
      (fun other => other != id && shown other) desktop := by
  unfold Tree.detachCommands
  cases link : tree.parent? id with
  | none =>
      apply mounted.congr forest (fun _ => rfl)
      intro other parent otherLink
      have different : other ≠ id := fun same => by simp [same ▸ link] at otherLink
      simp [different]
  | some parent =>
      dsimp only
      rw [Scene.performAll_cons, Scene.performAll_nil]
      exact
        { layered := mounted.layered.remove id _
          hosts := fun other => (Scene.hasViews_remove scene id other _).trans (mounted.hosts other)
          lists := fun other => by
            refine (Scene.children_remove scene id _ (.client parent)).trans ?_
            by_cases isParent : other = parent
            · rw [if_pos (congrArg Container.client isParent), mounted.lists, Stacking.without,
                List.filter_filter]
            · have absent := not_mem_other_children forest link isParent
              rw [if_neg fun same => isParent (Container.client.inj same), mounted.lists]
              apply List.filter_congr
              intro child inOther
              have different : child ≠ id := fun same => absent (same ▸ inOther)
              simp [different]
          desktop :=
            (Scene.children_remove scene id .desktop (.client parent)).trans mounted.desktop }

/-- The children of one window, attached in another order, are brought into the wanted one. -/
theorem alignChildren (mounted : Mounted tree scene hosted shown desktop)
    (isHosted : hosted parent = true) (distinct : (after.children parent).Nodup)
    (sameWindows : (tree.children parent).Perm (after.children parent))
    (others : ∀ other, other ≠ parent → after.children other = tree.children other) :
    Mounted after (scene.alignChildren parent ((after.children parent).filter shown)) hosted shown
      desktop := by
  have isThere : scene.isOpen (.client parent) = true := (mounted.hosts parent).trans isHosted
  exact
    { layered := mounted.layered.raiseAll _ _
      hosts := fun other => (Scene.hasViews_raiseAll scene other _ _).trans (mounted.hosts other)
      lists := fun other => by
        refine (Scene.children_raiseAll _ _ mounted.layered isThere).trans ?_
        by_cases isParent : other = parent
        · rw [if_pos (congrArg Container.client isParent), isParent, mounted.lists]
          exact Stacking.foldl_raise_afterCommonStart (distinct.filter _)
            (sameWindows.filter _)
        · rw [if_neg fun same => isParent (Container.client.inj same), mounted.lists,
            others other isParent]
      desktop := (Scene.children_raiseAll _ _ mounted.layered isThere).trans mounted.desktop }

end Mounted

end WindowRelay
