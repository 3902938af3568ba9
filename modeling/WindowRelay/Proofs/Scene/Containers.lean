import WindowRelay.Proofs.Scene.Stack

/-!
Contract: what each command does to the window lists of the host containers.

Owns:
- the containers that exist: the desktop container, and one for each window with views;
- for each command, the windows of every container and the windows with views afterwards;
- the commands that leave all of them alone;
- reserved entries stay in front of the windows in every container.

Does not own: which windows belong into which container (`Proofs.Desk.Mounting`).
-/

namespace WindowRelay

namespace Scene

variable (scene : Scene) (id other : WindowId) (container : Container)

/-- Reserved entries stand in front of the windows in every client container. -/
def Layered : Prop :=
  ∀ id view, scene.view? id = some view → view.Layered

/-- The desktop container is always there, a client container with the views of its window. -/
def isOpen : Container → Bool
  | .desktop => true
  | .client parent => scene.hasViews parent

theorem hasViews_eq : scene.hasViews id = (scene.view? id).isSome := rfl

theorem children_client_eq :
    scene.children (.client id) = ((scene.view? id).map View.windows).getD [] := rfl

/-! ## One view -/

section UpdateView

variable (change : View → View)

theorem view?_updateView :
    (scene.updateView id change).view? other =
      if other = id then (scene.view? other).map change else scene.view? other :=
  Table.get?_modify scene.views id other change

theorem hasViews_updateView :
    (scene.updateView id change).hasViews other = scene.hasViews other := by
  rw [hasViews_eq, hasViews_eq, view?_updateView]
  split <;> simp

variable {scene change}

theorem updateView_congr {other : View → View}
    (agree : ∀ view, scene.view? id = some view → change view = other view) :
    scene.updateView id change = scene.updateView id other :=
  congrArg (fun views => { scene with views }) (scene.views.modify_congr id agree)

theorem updateView_eq_self (keeps : ∀ view, scene.view? id = some view → change view = view) :
    scene.updateView id change = scene :=
  congrArg (fun views => { scene with views }) (scene.views.modify_eq_self id keeps)

theorem updateView_updateView (scene : Scene) (first second : View → View) :
    (scene.updateView id first).updateView id second =
      scene.updateView id fun view => second (first view) :=
  congrArg (fun views => { scene with views }) (scene.views.modify_modify id first second)

theorem Layered.updateView (layered : scene.Layered)
    (keeps : ∀ view : View, view.Layered → (change view).Layered) :
    (scene.updateView id change).Layered := by
  intro other view found
  rw [view?_updateView] at found
  split at found
  · obtain ⟨former, formerFound, rfl⟩ := Option.map_eq_some_iff.mp found
    exact keeps former (layered other former formerFound)
  · exact layered other view found

/-- A change of one view acts on the list of its windows, if there is such a view. -/
theorem children_updateView (act : List WindowId → List WindowId)
    (acts : ∀ view, scene.view? id = some view → (change view).windows = act view.windows)
    (onNothing : scene.hasViews id = true ∨ act [] = []) :
    (scene.updateView id change).children container =
      if container = .client id then act (scene.children container)
      else scene.children container := by
  cases container with
  | desktop => rfl
  | client parent =>
      rw [children_client_eq, children_client_eq, view?_updateView]
      by_cases isId : parent = id
      · subst isId
        cases found : scene.view? parent with
        | none =>
            have nothing : act [] = [] := onNothing.resolve_left (by simp [hasViews_eq, found])
            simp [nothing]
        | some view => simp [acts view found]
      · simp [isId]

end UpdateView

/-! ## Views that come and go -/

theorem view?_createViews :
    (scene.createViews id).view? other =
      if other = id ∧ scene.hasViews id = false then some (View.fresh scene.reserveFront)
      else scene.view? other := by
  unfold createViews
  by_cases there : scene.hasViews id = true
  · simp [there]
  · rw [if_neg there]
    refine (Table.get?_insert scene.views id other _).trans ?_
    simp only [Bool.not_eq_true] at there
    simp [there, view?]

theorem hasViews_createViews :
    (scene.createViews id).hasViews other = (other == id || scene.hasViews other) := by
  rw [hasViews_eq, view?_createViews]
  by_cases isId : other = id
  · subst isId
    by_cases there : scene.hasViews other = true
    · have hasView : (scene.view? other).isSome = true := there
      simp [there, hasView]
    · simp [there]
  · simp [isId, hasViews_eq]

theorem children_createViews :
    (scene.createViews id).children container = scene.children container := by
  cases container with
  | desktop =>
      unfold createViews
      split <;> rfl
  | client parent =>
      rw [children_client_eq, children_client_eq, view?_createViews]
      split
      · next isFresh =>
          obtain ⟨rfl, notThere⟩ := isFresh
          have nothing : scene.view? parent = none := by simpa [hasViews_eq] using notThere
          simp [nothing, View.windows_fresh]
      · rfl

theorem view?_destroyViews :
    (scene.destroyViews id).view? other =
      if other = id then none else (scene.view? other).map (·.remove id) := by
  refine (Table.get?_mapWithKey _ _ other).trans ?_
  rw [Table.get?_erase]
  split <;> rfl

theorem hasViews_destroyViews :
    (scene.destroyViews id).hasViews other = (other != id && scene.hasViews other) := by
  rw [hasViews_eq, view?_destroyViews]
  by_cases isId : other = id
  · simp [isId]
  · simp [isId, hasViews_eq]

theorem children_destroyViews :
    (scene.destroyViews id).children container =
      if container = .client id then [] else Stacking.without (scene.children container) id := by
  cases container with
  | desktop => rfl
  | client parent =>
      rw [children_client_eq, children_client_eq, view?_destroyViews]
      by_cases isId : parent = id
      · simp [isId]
      · cases scene.view? parent <;> simp [isId, View.windows_remove, Stacking.without]

variable {scene}

theorem Layered.createViews (layered : scene.Layered) : (scene.createViews id).Layered := by
  intro other view found
  rw [view?_createViews] at found
  split at found
  · cases found
    exact View.layered_fresh scene.reserveFront
  · exact layered other view found

theorem Layered.destroyViews (layered : scene.Layered) : (scene.destroyViews id).Layered := by
  intro other view found
  rw [view?_destroyViews] at found
  split at found
  · cases found
  · obtain ⟨former, formerFound, rfl⟩ := Option.map_eq_some_iff.mp found
    exact (layered other former formerFound).remove id

/-! ## One container -/

section OneContainer

variable (scene)

theorem hasViews_remove : (scene.remove container id).hasViews other = scene.hasViews other := by
  cases container with
  | desktop => rfl
  | client parent => exact hasViews_updateView scene parent other _

theorem hasViews_insert (index : Nat) :
    (scene.insert container id index).hasViews other = scene.hasViews other := by
  cases container with
  | desktop => rfl
  | client parent => exact hasViews_updateView scene parent other _

theorem hasViews_bringToFront :
    (scene.bringToFront container id).hasViews other = scene.hasViews other := by
  cases container with
  | desktop => rfl
  | client parent => exact hasViews_updateView scene parent other _

theorem children_remove (changed : Container) :
    (scene.remove changed id).children container =
      if container = changed then Stacking.without (scene.children container) id
      else scene.children container := by
  cases changed with
  | desktop => cases container <;> rfl
  | client parent =>
      exact children_updateView parent container (fun windows => Stacking.without windows id)
        (fun view _ => View.windows_remove view id) (.inr rfl)

variable {scene}

theorem Layered.remove (layered : scene.Layered) : (scene.remove container id).Layered := by
  cases container with
  | desktop => exact layered
  | client parent => exact layered.updateView parent fun _ viewLayered => viewLayered.remove id

theorem Layered.insert (layered : scene.Layered) (index : Nat) :
    (scene.insert container id index).Layered := by
  cases container with
  | desktop => exact layered
  | client parent =>
      exact layered.updateView parent fun _ viewLayered => viewLayered.insert id index

theorem Layered.bringToFront (layered : scene.Layered) :
    (scene.bringToFront container id).Layered := by
  cases container with
  | desktop => exact layered
  | client parent => exact layered.updateView parent fun _ viewLayered => viewLayered.raise id

theorem children_insert (layered : scene.Layered) {changed : Container}
    (isThere : scene.isOpen changed = true) (index : Nat) :
    (scene.insert changed id index).children container =
      if container = changed then
        (Stacking.without (scene.children container) id).insertIdx
          (min index (Stacking.without (scene.children container) id).length) id
      else scene.children container := by
  cases changed with
  | desktop => cases container <;> rfl
  | client parent =>
      exact children_updateView parent container
        (fun windows => (Stacking.without windows id).insertIdx
          (min index (Stacking.without windows id).length) id)
        (fun view found => View.windows_insert (layered parent view found) id index) (.inl isThere)

theorem children_bringToFront (layered : scene.Layered) {changed : Container}
    (isThere : scene.isOpen changed = true) :
    (scene.bringToFront changed id).children container =
      if container = changed then Stacking.raised (scene.children container) id
      else scene.children container := by
  cases changed with
  | desktop => cases container <;> rfl
  | client parent =>
      exact children_updateView parent container (fun windows => Stacking.raised windows id)
        (fun view found => View.windows_raise (layered parent view found) id) (.inl isThere)

end OneContainer

/-! ## Several windows of one container -/

section RaiseAll

variable (windows : List WindowId)

theorem raiseAll_desktop (scene : Scene) :
    scene.raiseAll .desktop windows =
      { scene with desktop := windows.foldl Stacking.raised scene.desktop } := by
  induction windows generalizing scene with
  | nil => rfl
  | cons window rest inductionHypothesis =>
      exact inductionHypothesis (scene.bringToFront .desktop window)

theorem raiseAll_client (scene : Scene) (parent : WindowId) :
    scene.raiseAll (.client parent) windows =
      scene.updateView parent fun view => windows.foldl View.raise view := by
  induction windows generalizing scene with
  | nil => exact (updateView_eq_self parent fun _ _ => rfl).symm
  | cons window rest inductionHypothesis =>
      refine (inductionHypothesis (scene.bringToFront (.client parent) window)).trans ?_
      exact updateView_updateView parent scene (·.raise window)
        fun view => rest.foldl View.raise view

variable (scene) in
theorem hasViews_raiseAll :
    (scene.raiseAll container windows).hasViews other = scene.hasViews other := by
  induction windows generalizing scene with
  | nil => rfl
  | cons window rest inductionHypothesis =>
      exact (inductionHypothesis (scene.bringToFront container window)).trans
        (hasViews_bringToFront scene window other container)

theorem Layered.raiseAll (layered : scene.Layered) :
    (scene.raiseAll container windows).Layered := by
  induction windows generalizing scene with
  | nil => exact layered
  | cons window rest inductionHypothesis =>
      exact inductionHypothesis (layered.bringToFront window container)

theorem children_raiseAll (layered : scene.Layered) {changed : Container}
    (isThere : scene.isOpen changed = true) :
    (scene.raiseAll changed windows).children container =
      if container = changed then windows.foldl Stacking.raised (scene.children container)
      else scene.children container := by
  induction windows generalizing scene with
  | nil => exact (ite_self (scene.children container)).symm
  | cons window rest inductionHypothesis =>
      have stillThere : (scene.bringToFront changed window).isOpen changed = true := by
        cases changed with
        | desktop => rfl
        | client parent => exact (hasViews_bringToFront scene window parent _).trans isThere
      refine (inductionHypothesis (layered.bringToFront window changed) stillThere).trans ?_
      rw [children_bringToFront window container layered isThere]
      by_cases same : container = changed <;> simp [same]

end RaiseAll

/-! ## Quiet commands -/

/-- Commands that move no window: layouts, contents, focus, visibility on the screen, the title. -/
@[simp] def Command.isQuiet : Command → Bool
  | .createContent .. | .layout .. | .setFocusable .. | .setShown .. | .setTitle _ => true
  | _ => false

theorem quiet_layout (id : WindowId) (kind : Surface.Kind) (rect : Rect) :
    ∀ command ∈ [Command.layout id kind rect], command.isQuiet = true := by
  simp

/-- The same containers with the same windows in them. -/
structure SameContainers (before after : Scene) : Prop where
  children : ∀ container, after.children container = before.children container
  hasViews : ∀ id, after.hasViews id = before.hasViews id
  layered : before.Layered → after.Layered

theorem SameContainers.refl (scene : Scene) : SameContainers scene scene :=
  ⟨fun _ => rfl, fun _ => rfl, fun layered => layered⟩

theorem SameContainers.trans {before after last : Scene} (first : SameContainers before after)
    (second : SameContainers after last) : SameContainers before last where
  children container := (second.children container).trans (first.children container)
  hasViews id := (second.hasViews id).trans (first.hasViews id)
  layered beforeLayered := second.layered (first.layered beforeLayered)

theorem SameContainers.of_views {before after : Scene} (views : after.views = before.views)
    (desktop : after.desktop = before.desktop) : SameContainers before after where
  children container := by
    cases container with
    | desktop => exact desktop
    | client id => rw [Scene.children, Scene.children, view?, views, ← view?]
  hasViews id := by rw [Scene.hasViews, views, ← Scene.hasViews]
  layered beforeLayered id view found := by
    rw [view?, views, ← view?] at found
    exact beforeLayered id view found

private theorem sameContainers_updateView {change : View → View}
    (keeps : ∀ view, (change view).stack = view.stack) :
    SameContainers scene (scene.updateView id change) where
  children container := by
    have sameWindows : ∀ view, (change view).windows = view.windows := fun view => by
      rw [View.windows, keeps, View.windows]
    refine (children_updateView id container (fun windows => windows)
      (fun view _ => sameWindows view) (.inr rfl)).trans (ite_self _)
  hasViews other := hasViews_updateView scene id other change
  layered beforeLayered := beforeLayered.updateView id fun view viewLayered => by
    obtain ⟨reserved, stack⟩ := viewLayered
    exact View.layered_of_stack ((keeps view).trans stack)

theorem sameContainers_perform (scene : Scene) {command : Command}
    (quiet : command.isQuiet = true) : SameContainers scene (scene.perform command) := by
  cases command with
  | createContent id kind =>
      exact sameContainers_updateView id fun view => by cases kind <;> rfl
  | layout id kind rect => exact sameContainers_updateView id fun view => by cases kind <;> rfl
  | setFocusable id focusable => exact sameContainers_updateView id fun _ => rfl
  | setShown id shown => exact sameContainers_updateView id fun _ => rfl
  | setTitle title => exact .of_views rfl rfl
  | createViews _ | destroyViews _ | insert _ _ _ | remove _ _ | attach _ _ _ | alignDesktop _
  | alignChildren _ _ => cases quiet

theorem sameContainers_performAll (scene : Scene) {commands : List Command}
    (quiet : ∀ command ∈ commands, command.isQuiet = true) :
    SameContainers scene (scene.performAll commands) := by
  induction commands generalizing scene with
  | nil => exact SameContainers.refl scene
  | cons command rest inductionHypothesis =>
      have first := sameContainers_perform scene (quiet command (by simp))
      exact first.trans (inductionHypothesis (scene.perform command)
        fun other member => quiet other (List.mem_cons_of_mem command member))

end Scene

end WindowRelay
