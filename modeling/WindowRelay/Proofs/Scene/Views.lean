import WindowRelay.Proofs.Scene.Containers

/-!
Contract: the view of one window, its window list set aside, under commands.

Owns:
- the bare view: layouts, contents, focus and visibility on the screen;
- the one window whose bare view a command may change, if there is one;
- commands for other windows, and commands that only arrange windows, keep a bare view.
-/

namespace WindowRelay

/-- A view without its window list. -/
def View.bare (view : View) : View :=
  { view with stack := [] }

namespace Scene

variable {scene : Scene} {id other : WindowId}

/-- The view of a window without its window list, if the window has views. -/
def bare? (scene : Scene) (id : WindowId) : Option View :=
  (scene.view? id).map View.bare

/-- The window whose bare view a command may change. The other commands arrange windows in
containers, or set the title. -/
def Command.alters? : Command → Option WindowId
  | .createViews id | .destroyViews id | .createContent id _ | .layout id _ _
  | .setFocusable id _ | .setShown id _ => some id
  | .insert .. | .remove .. | .setTitle _ | .attach .. | .alignDesktop _ | .alignChildren .. => none

/-! ## One command -/

theorem bare?_updateView_of_ne {change : View → View} (different : id ≠ other) :
    (scene.updateView other change).bare? id = scene.bare? id := by
  rw [bare?, view?_updateView, if_neg different, bare?]

theorem bare?_updateView_of_keeps {change : View → View}
    (keeps : ∀ view, (change view).bare = view.bare) :
    (scene.updateView other change).bare? id = scene.bare? id := by
  rw [bare?, view?_updateView, bare?]
  split
  · rw [Option.map_map]
    congr 1
    exact funext keeps
  · rfl

theorem bare?_bringToFront (container : Container) :
    (scene.bringToFront container other).bare? id = scene.bare? id := by
  cases container with
  | desktop => rfl
  | client parent => exact bare?_updateView_of_keeps fun _ => rfl

theorem bare?_raiseAll (container : Container) (windows : List WindowId) :
    (scene.raiseAll container windows).bare? id = scene.bare? id := by
  induction windows generalizing scene with
  | nil => rfl
  | cons window rest inductionHypothesis =>
      exact inductionHypothesis.trans (bare?_bringToFront container)

theorem bare?_createViews_of_ne (different : id ≠ other) :
    (scene.createViews other).bare? id = scene.bare? id := by
  rw [bare?, view?_createViews, if_neg fun isFresh => different isFresh.1, bare?]

theorem bare?_destroyViews_of_ne (different : id ≠ other) :
    (scene.destroyViews other).bare? id = scene.bare? id := by
  rw [bare?, view?_destroyViews, if_neg different, Option.map_map]
  rfl

theorem bare?_perform_of_ne (scene : Scene) {command : Command}
    (different : command.alters? ≠ some id) :
    (scene.perform command).bare? id = scene.bare? id := by
  have ne_of : ∀ other, command.alters? = some other → id ≠ other :=
    fun other isOther isId => different (isOther.trans (congrArg some isId.symm))
  cases command with
  | createViews other => exact bare?_createViews_of_ne (ne_of other rfl)
  | destroyViews other => exact bare?_destroyViews_of_ne (ne_of other rfl)
  | createContent other _ | layout other _ _ | setFocusable other _ | setShown other _ =>
      exact bare?_updateView_of_ne (ne_of other rfl)
  | insert container other index | remove container other =>
      cases container with
      | desktop => rfl
      | client parent => exact bare?_updateView_of_keeps fun _ => rfl
  | setTitle title => rfl
  | attach parent other behind => exact bare?_updateView_of_keeps fun _ => rfl
  | alignDesktop wanted => exact bare?_raiseAll .desktop _
  | alignChildren parent wanted => exact bare?_raiseAll (.client parent) _

/-! ## Several commands -/

/-- The windows whose bare views some commands may change. -/
def altered (commands : List Command) : List WindowId :=
  commands.filterMap Command.alters?

@[simp] theorem altered_nil : altered [] = [] := rfl

@[simp] theorem altered_cons (command : Command) (rest : List Command) :
    altered (command :: rest) = command.alters?.toList ++ altered rest := by
  rw [altered, List.filterMap_cons]
  cases command.alters? <;> rfl

@[simp] theorem altered_append (first second : List Command) :
    altered (first ++ second) = altered first ++ altered second :=
  List.filterMap_append

theorem bare?_performAll_of_notMem {commands : List Command} (absent : id ∉ altered commands)
    (scene : Scene) : (scene.performAll commands).bare? id = scene.bare? id := by
  induction commands generalizing scene with
  | nil => rfl
  | cons command rest inductionHypothesis =>
      rw [altered_cons, List.mem_append, not_or] at absent
      have different : command.alters? ≠ some id := fun isId => absent.1 (by simp [isId])
      rw [performAll_cons, inductionHypothesis absent.2, bare?_perform_of_ne scene different]

end Scene

end WindowRelay
