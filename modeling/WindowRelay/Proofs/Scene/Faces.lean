import WindowRelay.Proofs.Scene.Views

/-!
Contract: the layouts and contents of one window's views under commands.

Owns:
- the face of a view: its layouts and contents, its window list and its flags set aside;
- the effect of one command and of several commands on one face;
- commands that name no window touch no face.

One face is followed at a time, so a list of commands acts on it as a fold, and commands for other
windows drop out of that fold.
-/

namespace WindowRelay

/-- Layouts and contents of a view: its window list, the focus and the visibility are set aside. -/
def View.face (view : View) : View :=
  { view with stack := [], focusable := false, shown := true }

namespace Scene

/-- The layouts and contents of the views of a window, if it has views. -/
def face? (scene : Scene) (id : WindowId) : Option View :=
  (scene.view? id).map View.face

/-- The window whose layouts, contents or views a command changes. -/
def Command.subject? : Command → Option WindowId
  | .createViews id | .destroyViews id | .createContent id _ | .layout id _ _ => some id
  | _ => none

/-- The windows whose layouts, contents or views some commands change. -/
def subjects (commands : List Command) : List WindowId :=
  commands.filterMap Command.subject?

/-- What a command makes of the face of one window. -/
def Command.onFace (id : WindowId) (face : Option View) : Command → Option View
  | .createViews other => if other = id then some (face.getD {}) else face
  | .destroyViews other => if other = id then none else face
  | .createContent other kind => if other = id then face.map (·.addContent kind) else face
  | .layout other kind rect => if other = id then face.map (·.setLayout kind rect) else face
  | _ => face

/-- What some commands make of the face of one window. -/
def faceAfter (id : WindowId) (face : Option View) (commands : List Command) : Option View :=
  commands.foldl (Command.onFace id) face

variable {id other : WindowId} {scene : Scene}

theorem hasViews_eq_face? (scene : Scene) (id : WindowId) :
    scene.hasViews id = (scene.face? id).isSome := by
  simp [face?, hasViews_eq]

theorem face?_of_bare {last : Scene} (same : last.bare? id = scene.bare? id) :
    last.face? id = scene.face? id := by
  have faces := congrArg (Option.map View.face) same
  rw [bare?, bare?, Option.map_map, Option.map_map] at faces
  exact faces

/-! ## One command -/

section Updates

variable {change : View → View}

/-- A change of one view that keeps its layouts and contents. -/
theorem face?_updateView_of_keeps (keeps : ∀ view, (change view).face = view.face) :
    (scene.updateView other change).face? id = scene.face? id := by
  unfold face?
  rw [view?_updateView]
  split
  · rw [Option.map_map]
    congr 1
    exact funext keeps
  · rfl

/-- A change of one view that does the same to its face. -/
theorem face?_updateView (acts : ∀ view, (change view).face = change view.face) :
    (scene.updateView other change).face? id =
      if other = id then (scene.face? id).map change else scene.face? id := by
  unfold face?
  rw [view?_updateView]
  simp only [eq_comm (a := id)]
  split
  · rw [Option.map_map, Option.map_map]
    congr 1
    exact funext acts
  · rfl

end Updates

theorem face?_createViews :
    (scene.createViews other).face? id =
      if other = id then some ((scene.face? id).getD {}) else scene.face? id := by
  unfold face?
  rw [view?_createViews]
  by_cases isId : other = id
  · subst isId
    rw [hasViews_eq]
    cases scene.view? other with
    | none => simp [View.face, View.fresh]
    | some view => simp
  · simp [isId, Ne.symm isId]

theorem face?_destroyViews :
    (scene.destroyViews other).face? id = if other = id then none else scene.face? id := by
  unfold face?
  rw [view?_destroyViews]
  simp only [eq_comm (a := id)]
  split
  · rfl
  · rw [Option.map_map]
    rfl

theorem face?_perform (scene : Scene) (command : Command) :
    (scene.perform command).face? id = command.onFace id (scene.face? id) := by
  cases command with
  | createViews other => exact face?_createViews
  | destroyViews other => exact face?_destroyViews
  | createContent other kind => exact face?_updateView fun _ => by cases kind <;> rfl
  | layout other kind rect => exact face?_updateView fun _ => by cases kind <;> rfl
  | setFocusable other focusable => exact face?_updateView_of_keeps fun _ => rfl
  | setShown other shown => exact face?_updateView_of_keeps fun _ => rfl
  | insert _ _ _ | remove _ _ | setTitle _ | attach _ _ _ | alignDesktop _ | alignChildren _ _ =>
      exact face?_of_bare (bare?_perform_of_ne scene (by simp [Command.alters?]))

/-! ## Several commands -/

@[simp] theorem faceAfter_nil (face : Option View) : faceAfter id face [] = face := rfl

@[simp] theorem faceAfter_cons (face : Option View) (command : Command) (rest : List Command) :
    faceAfter id face (command :: rest) = faceAfter id (command.onFace id face) rest := rfl

theorem face?_performAll (scene : Scene) (commands : List Command) :
    (scene.performAll commands).face? id = faceAfter id (scene.face? id) commands := by
  induction commands generalizing scene with
  | nil => rfl
  | cons command rest inductionHypothesis =>
      rw [performAll_cons, inductionHypothesis, face?_perform, faceAfter_cons]

theorem faceAfter_append (face : Option View) (first second : List Command) :
    faceAfter id face (first ++ second) = faceAfter id (faceAfter id face first) second :=
  List.foldl_append

@[simp] theorem subjects_nil : subjects [] = [] := rfl

@[simp] theorem subjects_cons (command : Command) (rest : List Command) :
    subjects (command :: rest) = command.subject?.toList ++ subjects rest := by
  rw [subjects, List.filterMap_cons]
  cases command.subject? <;> rfl

@[simp] theorem subjects_append (first second : List Command) :
    subjects (first ++ second) = subjects first ++ subjects second :=
  List.filterMap_append

/-- Layouts, contents and views are part of a bare view. -/
theorem subjects_subset_altered (commands : List Command) :
    subjects commands ⊆ altered commands := by
  intro window member
  obtain ⟨command, isCommand, isSubject⟩ := List.mem_filterMap.mp member
  refine List.mem_filterMap.mpr ⟨command, isCommand, ?_⟩
  cases command <;> first | exact isSubject | cases isSubject

theorem subjects_eq_nil_of_altered {commands : List Command} (arranging : altered commands = []) :
    subjects commands = [] :=
  List.subset_nil.mp (arranging ▸ subjects_subset_altered commands)

/-- A command for another window, or for none. -/
theorem onFace_of_ne {command : Command} (different : command.subject? ≠ some id)
    (face : Option View) : command.onFace id face = face := by
  cases command with
  | createViews other | destroyViews other | createContent other kind | layout other kind rect =>
      have notId : other ≠ id := fun isId => different (congrArg some isId)
      exact if_neg notId
  | _ => rfl

theorem faceAfter_of_notMem {commands : List Command} (absent : id ∉ subjects commands)
    (face : Option View) : faceAfter id face commands = face := by
  induction commands generalizing face with
  | nil => rfl
  | cons command rest inductionHypothesis =>
      have different : command.subject? ≠ some id := fun isId =>
        absent (List.mem_filterMap.mpr ⟨command, List.mem_cons_self, isId⟩)
      have later : id ∉ subjects rest := fun member => by
        obtain ⟨other, isOther, isId⟩ := List.mem_filterMap.mp member
        exact absent (List.mem_filterMap.mpr ⟨other, List.mem_cons_of_mem command isOther, isId⟩)
      rw [faceAfter_cons, onFace_of_ne different, inductionHypothesis later]

/-- Commands that name no window touch no face. -/
theorem faceAfter_of_mute {commands : List Command} (mute : subjects commands = [])
    (face : Option View) : faceAfter id face commands = face :=
  faceAfter_of_notMem (by simp [mute]) face

end Scene

end WindowRelay
