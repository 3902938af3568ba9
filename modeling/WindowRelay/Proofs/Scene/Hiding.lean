import WindowRelay.Proofs.Scene.Views

/-!
Contract: the windows whose views the host hides, under commands.

Owns:
- a window is hidden if it has views and the host does not show them;
- the commands that may change whether a window is hidden: those that drop its views, and those
  that show or hide them;
- all other commands leave every window hidden or shown, as it is.

Fresh views are shown, and setting up views that are there already changes nothing, so views that
come hide no window and reveal none.
-/

namespace WindowRelay

namespace Scene

variable {scene : Scene} {id other : WindowId}

/-- The window has views, and the host does not show them. -/
def hides (scene : Scene) (id : WindowId) : Bool :=
  (scene.view? id).any fun view => !view.shown

theorem hides_iff :
    scene.hides id = true ↔ ∃ view, scene.view? id = some view ∧ view.shown = false := by
  unfold hides
  cases scene.view? id <;> simp

theorem hasViews_of_hides (hidden : scene.hides id = true) : scene.hasViews id = true := by
  obtain ⟨view, found, -⟩ := hides_iff.mp hidden
  rw [hasViews_eq, found]
  rfl

theorem hides_of_bare {last : Scene} (same : last.bare? id = scene.bare? id) :
    last.hides id = scene.hides id := by
  have shown := congrArg (·.any fun view => !view.shown) same
  rw [bare?, bare?, Option.any_map, Option.any_map] at shown
  exact shown

/-! ## One command -/

section OneCommand

variable {change : View → View}

theorem hides_updateView_of_keeps (keeps : ∀ view, (change view).shown = view.shown) :
    (scene.updateView other change).hides id = scene.hides id := by
  unfold hides
  rw [view?_updateView]
  split
  · cases scene.view? id <;> simp [keeps]
  · rfl

theorem hides_setShown (shown : Bool) :
    (scene.setShown other shown).hides id =
      if id = other then scene.hasViews id && !shown else scene.hides id := by
  unfold hides setShown
  rw [view?_updateView, hasViews_eq]
  split
  · cases scene.view? id <;> simp
  · rfl

theorem hides_createViews : (scene.createViews other).hides id = scene.hides id := by
  unfold hides
  rw [view?_createViews]
  split
  · next isFresh =>
      obtain ⟨rfl, notThere⟩ := isFresh
      have nothing : scene.view? id = none := by simpa [hasViews_eq] using notThere
      simp [nothing, View.fresh]
  · rfl

theorem hides_destroyViews :
    (scene.destroyViews other).hides id = (id != other && scene.hides id) := by
  unfold hides
  rw [view?_destroyViews]
  by_cases isOther : id = other
  · simp [isOther]
  · cases scene.view? id <;> simp [isOther, View.remove]

end OneCommand

/-- The window that a command may hide or reveal. -/
def Command.veils? : Command → Option WindowId
  | .destroyViews id | .setShown id _ => some id
  | _ => none

theorem hides_perform_of_ne (scene : Scene) {command : Command}
    (different : command.veils? ≠ some id) : (scene.perform command).hides id = scene.hides id := by
  cases command with
  | createViews other => exact hides_createViews
  | destroyViews other =>
      have notOther : id ≠ other := fun isOther => different (congrArg some isOther.symm)
      refine hides_destroyViews.trans ?_
      simp [notOther]
  | setShown other shown =>
      have notOther : id ≠ other := fun isOther => different (congrArg some isOther.symm)
      exact (hides_setShown shown).trans (if_neg notOther)
  | createContent other kind | layout other kind rect =>
      exact hides_updateView_of_keeps fun _ => by cases kind <;> rfl
  | setFocusable other focusable => exact hides_updateView_of_keeps fun _ => rfl
  | insert _ _ _ | remove _ _ | setTitle _ | attach _ _ _ | alignDesktop _ | alignChildren _ _ =>
      exact hides_of_bare (bare?_perform_of_ne scene (by simp [Command.alters?]))

/-! ## Several commands -/

/-- The windows that some commands may hide or reveal. -/
def veiled (commands : List Command) : List WindowId :=
  commands.filterMap Command.veils?

@[simp] theorem veiled_nil : veiled [] = [] := rfl

@[simp] theorem veiled_cons (command : Command) (rest : List Command) :
    veiled (command :: rest) = command.veils?.toList ++ veiled rest := by
  rw [veiled, List.filterMap_cons]
  cases command.veils? <;> rfl

@[simp] theorem veiled_append (first second : List Command) :
    veiled (first ++ second) = veiled first ++ veiled second :=
  List.filterMap_append

/-- Visibility on the screen is part of a bare view. -/
theorem veiled_subset_altered (commands : List Command) : veiled commands ⊆ altered commands := by
  intro window member
  obtain ⟨command, isCommand, isVeiled⟩ := List.mem_filterMap.mp member
  refine List.mem_filterMap.mpr ⟨command, isCommand, ?_⟩
  cases command <;> first | exact isVeiled | cases isVeiled

theorem veiled_eq_nil_of_altered {commands : List Command} (arranging : altered commands = []) :
    veiled commands = [] :=
  List.subset_nil.mp (arranging ▸ veiled_subset_altered commands)

/-- Commands that are about other windows. -/
theorem hides_performAll_of_notMem {commands : List Command} (absent : id ∉ veiled commands)
    (scene : Scene) : (scene.performAll commands).hides id = scene.hides id := by
  induction commands generalizing scene with
  | nil => rfl
  | cons command rest inductionHypothesis =>
      rw [veiled_cons, List.mem_append, not_or] at absent
      have different : command.veils? ≠ some id := fun isId => absent.1 (by simp [isId])
      rw [performAll_cons, inductionHypothesis absent.2, hides_perform_of_ne scene different]

/-- The commands drop the views of one window, and otherwise hide and reveal nothing. -/
def Drops (id : WindowId) (commands : List Command) : Prop :=
  ∃ before after, commands = before ++ .destroyViews id :: after ∧
    veiled before = [] ∧ veiled after = []

theorem Drops.hides_performAll {commands : List Command} (drops : Drops other commands)
    (scene : Scene) (id : WindowId) :
    (scene.performAll commands).hides id = (id != other && scene.hides id) := by
  obtain ⟨before, after, rfl, muteBefore, muteAfter⟩ := drops
  rw [performAll_append, performAll_cons, hides_performAll_of_notMem (by simp [muteAfter])]
  refine hides_destroyViews.trans ?_
  rw [hides_performAll_of_notMem (by simp [muteBefore])]

/-- All windows of a list are shown, or all are hidden. -/
theorem hides_setShown_all (scene : Scene) (windows : List WindowId) (shown : Bool) :
    (scene.performAll (windows.map fun window => .setShown window shown)).hides id =
      if id ∈ windows then scene.hasViews id && !shown else scene.hides id := by
  induction windows generalizing scene with
  | nil => rfl
  | cons window rest inductionHypothesis =>
      have sameViews : (scene.setShown window shown).hasViews id = scene.hasViews id :=
        hasViews_updateView scene window id _
      rw [List.map_cons, performAll_cons, inductionHypothesis]
      show (if id ∈ rest then (scene.setShown window shown).hasViews id && !shown
        else (scene.setShown window shown).hides id) = _
      rw [sameViews, hides_setShown]
      by_cases inRest : id ∈ rest <;> by_cases isWindow : id = window <;> simp [inRest, isWindow]

end Scene

end WindowRelay
