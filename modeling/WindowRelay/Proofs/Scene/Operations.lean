import WindowRelay.Proofs.Scene.Containers

/-!
Contract: the containers of a host against plain lists of windows.

Owns:
- the operations on the views of a host, and what each makes of its containers as plain lists;
- a run of operations does to the containers what it does to the lists;
- in every host that operations build, no container holds a window twice, and the reserved entry
  stands in front of the windows.

The lists know nothing of stacking lists, reserved entries or translated indices. A client container
that does not exist is no list at all.
-/

namespace WindowRelay

namespace Scene

/-! ## Operations -/

/-- An operation on a host that concerns its views, or what it shows around them. -/
inductive Operation where
  | createViews (id : WindowId)
  | destroyViews (id : WindowId)
  | insert (container : Container) (id : WindowId) (index : Nat)
  | remove (container : Container) (id : WindowId)
  | bringToFront (container : Container) (id : WindowId)
  | createContent (id : WindowId) (kind : Surface.Kind)
  | layout (id : WindowId) (kind : Surface.Kind) (rect : Rect)
  | layoutDesktop (width height : Int32)
  | setFocusable (id : WindowId) (focusable : Bool)
  | setShown (id : WindowId) (shown : Bool)
  | setTitle (title : Option ActivityTitle)
  | setCursor (cursor : Cursor)
  | finish
deriving DecidableEq, Repr

namespace Operation

/-- The container into which, out of which or within which an operation moves a window. -/
def container? : Operation → Option Container
  | insert container _ _ | remove container _ | bringToFront container _ => some container
  | _ => none

/-- Whether the windows of a container depend on an operation. The end of the views of a window
concerns every container, since the window may be in any of them. -/
def concerns (operation : Operation) (container : Container) : Bool :=
  match operation with
  | createViews id => container == .client id
  | destroyViews _ => true
  | other => other.container? == some container

end Operation

/-- The host behind an operation. -/
def operate (scene : Scene) : Operation → Scene
  | .createViews id => scene.createViews id
  | .destroyViews id => scene.destroyViews id
  | .insert container id index => scene.insert container id index
  | .remove container id => scene.remove container id
  | .bringToFront container id => scene.bringToFront container id
  | .createContent id kind => scene.createContent id kind
  | .layout id kind rect => scene.layout id kind rect
  | .layoutDesktop width height => { scene with desktopSize := (width, height) }
  | .setFocusable id focusable => scene.setFocusable id focusable
  | .setShown id shown => scene.setShown id shown
  | .setTitle title => scene.setTitle title
  | .setCursor cursor => { scene with cursor := some cursor }
  | .finish => { scene with finished := true }

/-! ## Plain lists -/

/-- The windows of each container, back to front; a container that does not exist has no list. -/
abbrev PlainLists := Container → Option (List WindowId)

/-- The containers of a host as plain lists. -/
def lists (scene : Scene) : PlainLists := fun container =>
  if scene.isOpen container then some (scene.children container) else none

namespace PlainLists

/-- The desktop container is there from the beginning. -/
def fresh : PlainLists
  | .desktop => some []
  | .client _ => none

/-- Change the list of one container, if it is there. -/
def modify (lists : PlainLists) (changed : Container)
    (change : List WindowId → List WindowId) : PlainLists := fun container =>
  if container = changed then (lists container).map change else lists container

/-- What an operation makes of the lists. -/
def next (lists : PlainLists) : Operation → PlainLists
  | .createViews id => fun container =>
    if container = .client id then some ((lists container).getD []) else lists container
  | .destroyViews id => fun container =>
    if container = .client id then none else (lists container).map (·.erase id)
  | .insert container id index => lists.modify container fun windows =>
    (windows.erase id).insertIdx (min index (windows.erase id).length) id
  | .remove container id => lists.modify container (·.erase id)
  | .bringToFront container id => lists.modify container fun windows => windows.erase id ++ [id]
  | .createContent .. | .layout .. | .layoutDesktop .. | .setFocusable .. | .setShown ..
  | .setTitle _ | .setCursor _ | .finish => lists

/-- No window stands twice in a list. -/
def Distinct (lists : PlainLists) : Prop :=
  ∀ container windows, lists container = some windows → windows.Nodup

variable {lists : PlainLists}

theorem next_of_unconcerned {operation : Operation} {container : Container}
    (unconcerned : operation.concerns container = false) :
    lists.next operation container = lists container := by
  cases operation with
  | createViews id => exact if_neg (by simpa [Operation.concerns] using unconcerned)
  | destroyViews => cases unconcerned
  | insert changed | remove changed | bringToFront changed =>
      have different : container ≠ changed := by
        rintro rfl
        simp [Operation.concerns, Operation.container?] at unconcerned
      exact if_neg different
  | _ => rfl

theorem distinct_fresh : Distinct fresh := by
  intro container windows isList
  cases container with
  | desktop =>
      cases isList
      exact List.nodup_nil
  | client => cases isList

theorem Distinct.modify (distinct : lists.Distinct) (changed : Container)
    {change : List WindowId → List WindowId}
    (keeps : ∀ windows : List WindowId, windows.Nodup → (change windows).Nodup) :
    (lists.modify changed change).Distinct := by
  intro container windows isList
  unfold PlainLists.modify at isList
  split at isList
  · obtain ⟨former, wasList, rfl⟩ := Option.map_eq_some_iff.mp isList
    exact keeps former (distinct container former wasList)
  · exact distinct container windows isList

theorem Distinct.next (distinct : lists.Distinct) (operation : Operation) :
    (lists.next operation).Distinct := by
  cases operation with
  | createViews id =>
      intro container windows isList
      unfold PlainLists.next at isList
      dsimp only at isList
      split at isList
      · cases former : lists container with
        | none =>
            rw [former] at isList
            cases isList
            exact List.nodup_nil
        | some list =>
            rw [former] at isList
            cases isList
            exact distinct container list former
      · exact distinct container windows isList
  | destroyViews id =>
      intro container windows isList
      unfold PlainLists.next at isList
      dsimp only at isList
      split at isList
      · cases isList
      · obtain ⟨former, wasList, rfl⟩ := Option.map_eq_some_iff.mp isList
        exact (distinct container former wasList).erase id
  | insert container id index =>
      refine distinct.modify container fun windows windowsDistinct => ?_
      have inserted := List.perm_insertIdx id (windows.erase id)
        (Nat.min_le_right index (windows.erase id).length)
      rw [inserted.nodup_iff, List.nodup_cons]
      exact ⟨windowsDistinct.not_mem_erase, windowsDistinct.erase id⟩
  | remove container id =>
      exact distinct.modify container fun windows windowsDistinct => windowsDistinct.erase id
  | bringToFront container id =>
      refine distinct.modify container fun windows windowsDistinct => ?_
      rw [(List.perm_append_singleton id (windows.erase id)).nodup_iff, List.nodup_cons]
      exact ⟨windowsDistinct.not_mem_erase, windowsDistinct.erase id⟩
  | _ => exact distinct

end PlainLists

/-! ## One operation -/

variable {scene after : Scene} {operation : Operation} {parent : WindowId}

/-- An operation on a container that does not exist changes nothing. -/
theorem operate_of_closed (on : operation.container? = some (.client parent))
    (closed : scene.hasViews parent = false) : scene.operate operation = scene := by
  have noView : scene.view? parent = none := by simpa [hasViews_eq] using closed
  have keeps : ∀ (change : View → View) view, scene.view? parent = some view →
      change view = view := by
    intro change view found
    cases noView.symm.trans found
  cases operation with
  | insert container id index =>
      cases on
      exact updateView_eq_self parent (keeps _)
  | remove container id =>
      cases on
      exact updateView_eq_self parent (keeps _)
  | bringToFront container id =>
      cases on
      exact updateView_eq_self parent (keeps _)
  | _ => cases on

/-- In no container does a window stand twice, and the reserved entry, if there is one, stands in
front of the windows. -/
structure Orderly (scene : Scene) : Prop where
  distinct : scene.lists.Distinct
  fronted : ∀ id view, scene.view? id = some view →
    view.stack = View.layered view.windows scene.reserveFront.toNat

theorem Orderly.layered (orderly : scene.Orderly) : scene.Layered :=
  fun id view found => ⟨_, orderly.fronted id view found⟩

theorem lists_client (scene : Scene) (id : WindowId) :
    scene.lists (.client id) = (scene.view? id).map View.windows := by
  rw [lists, children_client_eq, isOpen, hasViews_eq]
  cases scene.view? id <;> rfl

theorem Orderly.nodup_children (orderly : scene.Orderly) (container : Container) :
    (scene.children container).Nodup := by
  cases isThere : scene.isOpen container with
  | true => exact orderly.distinct container _ (if_pos isThere)
  | false =>
      cases container with
      | desktop => cases isThere
      | client parent =>
          have noView : scene.view? parent = none := by simpa [isOpen, hasViews_eq] using isThere
          simp [children_client_eq, noView]

/-- The stacking list of a client container is told by its windows. -/
theorem Orderly.stack_eq (orderly : scene.Orderly) (parent : WindowId) :
    scene.stack parent = ((scene.lists (.client parent)).map fun windows =>
      View.layered windows scene.reserveFront.toNat).getD [] := by
  rw [stack, lists_client]
  cases found : scene.view? parent with
  | none => rfl
  | some view => exact orderly.fronted parent view found

/-- Another host has the same lists where it has the same containers with the same windows. -/
theorem lists_congr {container : Container}
    (isOpen : after.isOpen container = scene.isOpen container)
    (children : after.children container = scene.children container) :
    after.lists container = scene.lists container := by
  simp only [lists, isOpen, children]

theorem isOpen_congr (hasViews : ∀ id, after.hasViews id = scene.hasViews id)
    (container : Container) : after.isOpen container = scene.isOpen container := by
  cases container with
  | desktop => rfl
  | client id => exact hasViews id

theorem lists_of_sameContainers (same : SameContainers scene after) : after.lists = scene.lists :=
  funext fun container =>
    lists_congr (isOpen_congr same.hasViews container) (same.children container)

/-- An operation that concerns no container leaves all of them alone. -/
theorem sameContainers_operate (scene : Scene)
    (aside : ∀ container, operation.concerns container = false) :
    SameContainers scene (scene.operate operation) := by
  have quiet : ∀ command : Command, command.isQuiet = true →
      SameContainers scene (scene.perform command) :=
    fun _ isQuiet => sameContainers_perform scene isQuiet
  cases operation with
  | createContent id kind => exact quiet (.createContent id kind) rfl
  | layout id kind rect => exact quiet (.layout id kind rect) rfl
  | setFocusable id focusable => exact quiet (.setFocusable id focusable) rfl
  | setShown id shown => exact quiet (.setShown id shown) rfl
  | setTitle title => exact quiet (.setTitle title) rfl
  | layoutDesktop | setCursor | finish => exact .of_views rfl rfl
  | createViews id => simpa [Operation.concerns] using aside (.client id)
  | destroyViews id => cases aside .desktop
  | insert container | remove container | bringToFront container =>
      simpa [Operation.concerns, Operation.container?] using aside container

/-- What changes the windows of one container changes one list. -/
theorem lists_modify {changed : Container} {change : List WindowId → List WindowId}
    (isThere : scene.isOpen changed = true)
    (hasViews : ∀ id, after.hasViews id = scene.hasViews id)
    (moved : after.children changed = change (scene.children changed))
    (others : ∀ container, container ≠ changed →
      after.children container = scene.children container) :
    after.lists = scene.lists.modify changed change := by
  funext container
  have isOpen := isOpen_congr hasViews container
  rw [PlainLists.modify]
  by_cases isChanged : container = changed
  · subst isChanged
    simp [lists, isOpen, isThere, moved]
  · rw [if_neg isChanged]
    exact lists_congr isOpen (others container isChanged)

/-- An operation that moves a window within its container acts on the list of the container, if
there is one. -/
theorem lists_operate_of_container {changed : Container} {change : List WindowId → List WindowId}
    (on : operation.container? = some changed)
    (onOpen : scene.isOpen changed = true →
      (scene.operate operation).lists = scene.lists.modify changed change) :
    (scene.operate operation).lists = scene.lists.modify changed change := by
  cases isThere : scene.isOpen changed with
  | true => exact onOpen isThere
  | false =>
      cases changed with
      | desktop => cases isThere
      | client parent =>
          have noList : scene.lists (.client parent) = none := by simp [lists, isThere]
          rw [operate_of_closed on isThere]
          funext container
          rw [PlainLists.modify]
          split
          · next isParent => rw [isParent, noList, Option.map_none]
          · rfl

theorem lists_createViews (scene : Scene) (id : WindowId) :
    (scene.createViews id).lists = scene.lists.next (.createViews id) := by
  funext container
  simp only [PlainLists.next]
  cases container with
  | desktop => exact lists_congr rfl (children_createViews scene id .desktop)
  | client parent =>
      simp only [lists_client, view?_createViews, Container.client.injEq, hasViews_eq]
      by_cases isId : parent = id
      · have sameId : (parent = id ∧ (scene.view? id).isSome = false) ↔ scene.view? id = none := by
          simp [isId]
        simp only [sameId]
        rw [isId, if_pos rfl]
        split
        · next noView => simp [noView, View.windows_fresh]
        · next hasView =>
            obtain ⟨view, found⟩ := Option.ne_none_iff_exists'.mp hasView
            simp [found]
      · simp [isId]

theorem lists_destroyViews (orderly : scene.Orderly) (id : WindowId) :
    (scene.destroyViews id).lists = scene.lists.next (.destroyViews id) := by
  funext container
  simp only [PlainLists.next]
  cases container with
  | desktop =>
      have distinct : scene.desktop.Nodup := orderly.nodup_children .desktop
      exact congrArg some (Stacking.without_eq_erase distinct id)
  | client parent =>
      simp only [lists_client, view?_destroyViews, Container.client.injEq]
      by_cases isId : parent = id
      · simp [isId]
      · rw [if_neg isId, if_neg isId, Option.map_map, Option.map_map]
        refine Option.map_congr fun view found => ?_
        have distinct : view.windows.Nodup := orderly.distinct (.client parent) _ (by
          rw [lists_client, found, Option.map_some])
        exact (View.windows_remove view id).trans (Stacking.without_eq_erase distinct id)

/-- Each operation does to the containers what it does to the lists. -/
theorem lists_operate (orderly : scene.Orderly) (operation : Operation) :
    (scene.operate operation).lists = scene.lists.next operation := by
  have erased : ∀ container id,
      Stacking.without (scene.children container) id = (scene.children container).erase id :=
    fun container => Stacking.without_eq_erase (orderly.nodup_children container)
  cases operation with
  | createViews id => exact lists_createViews scene id
  | destroyViews id => exact lists_destroyViews orderly id
  | insert container id index =>
      refine lists_operate_of_container rfl fun isThere => ?_
      have inserted := fun other => children_insert id other orderly.layered isThere index
      have sameViews := fun other => hasViews_insert scene id other container index
      refine lists_modify isThere sameViews ?_ ?_
      · exact (inserted container).trans (by rw [if_pos rfl, erased])
      · exact fun other isOther => (inserted other).trans (if_neg isOther)
  | remove container id =>
      refine lists_operate_of_container rfl fun isThere => ?_
      have removed := fun other => children_remove scene id other container
      refine lists_modify isThere (fun other => hasViews_remove scene id other container) ?_ ?_
      · exact (removed container).trans (by rw [if_pos rfl, erased])
      · exact fun other isOther => (removed other).trans (if_neg isOther)
  | bringToFront container id =>
      refine lists_operate_of_container rfl fun isThere => ?_
      have raised := fun other => children_bringToFront id other orderly.layered isThere
      have sameViews := fun other => hasViews_bringToFront scene id other container
      refine lists_modify isThere sameViews ?_ ?_
      · exact (raised container).trans (by rw [if_pos rfl, Stacking.raised, erased])
      · exact fun other isOther => (raised other).trans (if_neg isOther)
  | createContent | layout | setFocusable | setShown | setTitle =>
      exact lists_of_sameContainers (sameContainers_operate scene fun _ => rfl)
  | layoutDesktop | setCursor | finish => rfl

/-- What holds of fresh views and is kept by moves of windows holds of all views behind an
operation, as long as it is about the stacking list alone. -/
theorem operate_preserves_stacks {motive : List StackEntry → Prop} (scene : Scene)
    (operation : Operation) (fresh : motive (View.fresh scene.reserveFront).stack)
    (remove : ∀ (view : View) id, motive view.stack → motive (view.remove id).stack)
    (insert : ∀ (view : View) id index, motive view.stack → motive (view.insert id index).stack)
    (before : ∀ id view, scene.view? id = some view → motive view.stack) :
    ∀ id view, (scene.operate operation).view? id = some view → motive view.stack := by
  have updated : ∀ (parent : WindowId) (change : View → View),
      (∀ view : View, motive view.stack → motive (change view).stack) →
      ∀ id view, (scene.updateView parent change).view? id = some view → motive view.stack := by
    intro parent change keeps id view found
    rw [view?_updateView] at found
    split at found
    · obtain ⟨former, formerFound, rfl⟩ := Option.map_eq_some_iff.mp found
      exact keeps former (before id former formerFound)
    · exact before id view found
  cases operation with
  | createViews created =>
      intro id view found
      rw [operate, view?_createViews] at found
      split at found
      · cases found
        exact fresh
      · exact before id view found
  | destroyViews destroyed =>
      intro id view found
      rw [operate, view?_destroyViews] at found
      split at found
      · cases found
      · obtain ⟨former, formerFound, rfl⟩ := Option.map_eq_some_iff.mp found
        exact remove former destroyed (before id former formerFound)
  | insert container inserted index =>
      cases container with
      | desktop => exact before
      | client parent => exact updated parent _ fun view => insert view inserted index
  | remove container removed =>
      cases container with
      | desktop => exact before
      | client parent => exact updated parent _ fun view => remove view removed
  | bringToFront container raised =>
      cases container with
      | desktop => exact before
      | client parent => exact updated parent _ fun view => insert view raised _
  | createContent created kind =>
      exact updated created _ fun view same => by cases kind <;> exact same
  | layout placed kind rect => exact updated placed _ fun view same => by cases kind <;> exact same
  | setFocusable changed | setShown changed => exact updated changed _ fun _ same => same
  | layoutDesktop | setTitle | setCursor | finish => exact before

theorem reserveFront_operate (scene : Scene) (operation : Operation) :
    (scene.operate operation).reserveFront = scene.reserveFront := by
  cases operation with
  | createViews id =>
      rw [operate, createViews]
      split <;> rfl
  | insert container | remove container | bringToFront container => cases container <;> rfl
  | _ => rfl

theorem Orderly.operate (orderly : scene.Orderly) (operation : Operation) :
    (scene.operate operation).Orderly where
  distinct := by
    rw [lists_operate orderly operation]
    exact orderly.distinct.next operation
  fronted := by
    rw [reserveFront_operate]
    -- Said about the stacking list alone: it is that of some windows.
    have someWindows := scene.operate_preserves_stacks operation
      (motive := fun stack => ∃ windows, stack = View.layered windows scene.reserveFront.toNat)
      ⟨[], by cases scene.reserveFront <;> rfl⟩
      (fun view id ⟨windows, stack⟩ => ⟨_, View.stack_remove stack id⟩)
      (fun view id index ⟨windows, stack⟩ => ⟨_, View.stack_insert stack id index⟩)
      (fun id view found => ⟨_, orderly.fronted id view found⟩)
    intro id view found
    obtain ⟨windows, stack⟩ := someWindows id view found
    rw [View.windows_of_stack stack, stack]

/-! ## Runs -/

/-- The host behind some operations, in order. -/
def operateAll (scene : Scene) (operations : List Operation) : Scene :=
  operations.foldl operate scene

theorem lists_fresh (reserveFront : Bool) : lists { reserveFront } = PlainLists.fresh := by
  funext container
  cases container <;> rfl

theorem orderly_fresh (reserveFront : Bool) : Orderly { reserveFront } where
  distinct := lists_fresh reserveFront ▸ PlainLists.distinct_fresh
  fronted := fun _ _ found => by cases found

theorem Orderly.operateAll (orderly : scene.Orderly) (operations : List Operation) :
    (scene.operateAll operations).Orderly := by
  induction operations generalizing scene with
  | nil => exact orderly
  | cons operation rest inductionHypothesis => exact inductionHypothesis (orderly.operate operation)

theorem lists_operateAll (orderly : scene.Orderly) (operations : List Operation) :
    (scene.operateAll operations).lists = operations.foldl PlainLists.next scene.lists := by
  induction operations generalizing scene with
  | nil => rfl
  | cons operation rest inductionHypothesis =>
      rw [List.foldl_cons, ← lists_operate orderly]
      exact inductionHypothesis (orderly.operate operation)

theorem reserveFront_operateAll (scene : Scene) (operations : List Operation) :
    (scene.operateAll operations).reserveFront = scene.reserveFront := by
  induction operations generalizing scene with
  | nil => rfl
  | cons operation rest inductionHypothesis =>
      exact (inductionHypothesis (scene.operate operation)).trans
        (reserveFront_operate scene operation)

/-- In a host that operations build from a fresh one, the containers are what the same operations
make of plain lists: no window stands twice, and the stacking list of a client container is its
windows with the one reserved entry in front, or without any. An operation on a container that does
not exist changes nothing, and no operation changes a container that it does not concern. -/
theorem containers_refine_lists (reserveFront : Bool) (operations : List Operation) :
    let scene := operateAll { reserveFront } operations
    scene.lists = operations.foldl PlainLists.next PlainLists.fresh ∧
      (∀ container, (scene.children container).Nodup) ∧
      (∀ parent, scene.stack parent =
        if scene.hasViews parent then
          (scene.children (.client parent)).map .window ++ if reserveFront then [.content] else []
        else []) ∧
      (∀ operation parent, operation.container? = some (.client parent) →
        scene.hasViews parent = false → scene.operate operation = scene) ∧
      ∀ operation container, operation.concerns container = false →
        (scene.operate operation).lists container = scene.lists container ∧
          ∀ parent, container = .client parent →
            (scene.operate operation).stack parent = scene.stack parent := by
  intro scene
  have orderly : scene.Orderly := (orderly_fresh reserveFront).operateAll operations
  have refines := lists_operateAll (orderly_fresh reserveFront) operations
  rw [lists_fresh] at refines
  refine ⟨refines, orderly.nodup_children, fun parent => ?_,
    fun operation parent on closed => operate_of_closed on closed,
    fun operation container unconcerned => ?_⟩
  · have sameReserve : scene.reserveFront = reserveFront :=
      reserveFront_operateAll { reserveFront } operations
    rw [orderly.stack_eq, lists, sameReserve, isOpen]
    cases scene.hasViews parent <;> cases reserveFront <;> simp [View.layered]
  · have same : (scene.operate operation).lists container = scene.lists container := by
      rw [lists_operate orderly, PlainLists.next_of_unconcerned unconcerned]
    refine ⟨same, fun parent isClient => ?_⟩
    rw [(orderly.operate operation).stack_eq, orderly.stack_eq, reserveFront_operate, ← isClient,
      same]

/-- An index past the end is the end of the windows, not that of the stacking list. -/
example : (operateAll { reserveFront := true }
    [.createViews 1, .insert (.client 1) 2 9, .insert (.client 1) 3 9]).stack 1 =
      [.window 2, .window 3, .content] := by
  decide

end Scene

end WindowRelay
