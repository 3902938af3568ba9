import WindowRelay.Scene.Command

/-!
Contract: the title of a scene under commands.

Owns:
- the titles that some commands set, in order;
- the last of them stays, and each of them is counted.
-/

namespace WindowRelay

namespace Scene

/-- The title that a command sets. -/
def Command.title? : Command → Option (Option ActivityTitle)
  | .setTitle title => some title
  | _ => none

/-- The titles that some commands set, in order. -/
def titlesOf (commands : List Command) : List (Option ActivityTitle) :=
  commands.filterMap Command.title?

@[simp] theorem titlesOf_nil : titlesOf [] = [] := rfl

@[simp] theorem titlesOf_append (first second : List Command) :
    titlesOf (first ++ second) = titlesOf first ++ titlesOf second :=
  List.filterMap_append

theorem titlesOf_eq_nil {commands : List Command}
    (mute : ∀ command ∈ commands, command.title? = none) : titlesOf commands = [] :=
  List.filterMap_eq_nil_iff.mpr mute

/-- The title was not set. -/
structure SameTitle (before after : Scene) : Prop where
  title : after.title = before.title
  updates : after.titleUpdates = before.titleUpdates

private theorem sameTitle_insert (scene : Scene) (container : Container) (id : WindowId)
    (index : Nat) : SameTitle scene (scene.insert container id index) := by
  cases container <;> exact ⟨rfl, rfl⟩

private theorem sameTitle_raiseAll (scene : Scene) (container : Container)
    (windows : List WindowId) : SameTitle scene (scene.raiseAll container windows) := by
  induction windows generalizing scene with
  | nil => exact ⟨rfl, rfl⟩
  | cons window rest inductionHypothesis =>
      have first : SameTitle scene (scene.bringToFront container window) := by
        cases container <;> exact ⟨rfl, rfl⟩
      have later := inductionHypothesis (scene.bringToFront container window)
      exact ⟨later.title.trans first.title, later.updates.trans first.updates⟩

theorem sameTitle_perform (scene : Scene) {command : Command} (mute : command.title? = none) :
    SameTitle scene (scene.perform command) := by
  cases command with
  | setTitle title => cases mute
  | createViews id =>
      show SameTitle scene (scene.createViews id)
      unfold createViews
      split <;> exact ⟨rfl, rfl⟩
  | insert container id index => exact sameTitle_insert scene container id index
  | remove container id => cases container <;> exact ⟨rfl, rfl⟩
  | attach parent id behind => exact sameTitle_insert scene (.client parent) id _
  | alignDesktop wanted => exact sameTitle_raiseAll scene .desktop _
  | alignChildren parent wanted => exact sameTitle_raiseAll scene (.client parent) _
  | _ => exact ⟨rfl, rfl⟩

/-- The last title that is set stays, and every one that is set is counted. -/
theorem title_performAll (scene : Scene) (commands : List Command) :
    (scene.performAll commands).title = (titlesOf commands).getLast?.getD scene.title ∧
      (scene.performAll commands).titleUpdates =
        scene.titleUpdates + (titlesOf commands).length := by
  induction commands generalizing scene with
  | nil => exact ⟨rfl, rfl⟩
  | cons command rest inductionHypothesis =>
      obtain ⟨title, updates⟩ := inductionHypothesis (scene.perform command)
      rw [performAll_cons, title, updates]
      cases sets : command.title? with
      | none =>
          have same := sameTitle_perform scene sets
          have remaining : titlesOf (command :: rest) = titlesOf rest :=
            List.filterMap_cons_none sets
          exact ⟨by rw [remaining, same.title], by rw [remaining, same.updates]⟩
      | some set =>
          have isSet : scene.perform command = scene.setTitle set := by
            cases command with
            | setTitle title =>
                cases sets
                rfl
            | _ => cases sets
          have remaining : titlesOf (command :: rest) = set :: titlesOf rest :=
            List.filterMap_cons_some sets
          rw [remaining, isSet, List.getLast?_cons, List.length_cons]
          exact ⟨rfl, by simp only [setTitle]; omega⟩

end Scene

end WindowRelay
