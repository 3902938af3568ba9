import WindowRelay.Proofs.Desk.Hiding
import WindowRelay.Proofs.Session.AbsentWindow

/-!
Contract: the windows that the host hides while the activity is in the background.

Owns:
- the tasks that hide a window, and those that reveal it or drop its views;
- a window is hidden exactly if it was a top-level one when the activity went to the background, and
  was neither destroyed nor moved under a parent since, nor did the activity come back;
- while the activity is in the foreground, the host shows every window that has views.

A top-level window that comes while the activity is in the background is shown, and so is one that
has been under a parent meanwhile.
-/

namespace WindowRelay

namespace Desk.SameWindows

variable {before after : Desk} {id : WindowId}

theorem hides (same : SameWindows before after) (id : WindowId) :
    after.scene.hides id = before.scene.hides id := by
  unfold Scene.hides Scene.view?
  rw [same.views]

theorem hidesTopLevel (same : SameWindows before after) (only : before.HidesTopLevel) :
    after.HidesTopLevel := by
  intro id hidden
  rw [same.tree]
  exact only id (same.hides id ▸ hidden)

end Desk.SameWindows

namespace Session

variable {config : Config} {directory : Option PrefixDirectory} {session : Session}
  {task : Task} {tasks : List Task} {reaction : Reaction} {id : WindowId}

/-- The activity goes to the background while the window is a top-level one. -/
def Hides (id : WindowId) (session : Session) (task : Task) : Prop :=
  task = .host .activityStopped ∧ session.tree.holds Node.isTopLevel id = true

/-- The activity comes back, or the window is destroyed, or it moves under a parent. -/
def Reveals (id : WindowId) (session : Session) (task : Task) : Prop :=
  task = .host .activityStarted ∨ task = .manager (.destroyWindow id) ∨
    ∃ parent scale process, task = .manager (.setParent id parent scale process) ∧
      parent ≠ WindowId.absent ∧ ¬ session.tree.Refuses (.reparent id parent scale)

/-- The last that was heard of the activity is that it went to the background. -/
def backgrounded (tasks : List Task) : Bool :=
  tasks.foldl
    (fun background task =>
      match task with
      | .host .activityStopped => true
      | .host .activityStarted => false
      | _ => background)
    false

/-! ## One task -/

/-- Most tasks are one event about windows, or none. -/
theorem treeEvents_cases (task : Task) :
    task.treeEvents = [] ∨ (∃ event, task.treeEvents = [event]) ∨
      ∃ window scalingCode, task = .manager (.createDesktop window scalingCode) := by
  have handled := ({} : Session).handles task
  generalize ({} : Session).dispatch task = outcome at handled
  cases handled with
  | aside events => exact .inl events
  | event events => exact .inr (.inl ⟨_, events⟩)
  | destroyWindow window => exact .inr (.inl ⟨_, rfl⟩)
  | createDesktop window scalingCode => exact .inr (.inr ⟨window, scalingCode, rfl⟩)
  | motion sample => exact .inl rfl

/-- The tasks that bring the coming and going of the activity, a removal or a move. -/
theorem mem_treeEvents_iff (task : Task) :
    (.activityStopped ∈ task.treeEvents ↔ task = .host .activityStopped) ∧
    (.activityStarted ∈ task.treeEvents ↔ task = .host .activityStarted) ∧
    (∀ id, .destroy id ∈ task.treeEvents ↔ task = .manager (.destroyWindow id)) ∧
    ∀ id parent scale, .reparent id parent scale ∈ task.treeEvents ↔
      ∃ process, task = .manager (.setParent id parent scale process) := by
  cases task with
  | manager event =>
      cases event with
      | setIcon window width height pixels =>
          simp only [Task.treeEvents, ManagerEvent.treeEvents]
          repeat' split
          all_goals simp
      | destroyWindow window =>
          simp [Task.treeEvents, ManagerEvent.treeEvents, eq_comm (a := window)]
      | setParent window parent scale process =>
          simp [Task.treeEvents, ManagerEvent.treeEvents, eq_comm (a := window),
            eq_comm (a := parent), eq_comm (a := scale)]
      | _ => simp [Task.treeEvents, ManagerEvent.treeEvents]
  | host event =>
      cases event with
      | activityStarted =>
          simp [show (Task.host .activityStarted).treeEvents = [.activityStarted] from rfl]
      | activityStopped =>
          simp [show (Task.host .activityStopped).treeEvents = [.activityStopped] from rfl]
      | _ =>
          -- no event, or one that is none of the four
          refine ⟨⟨?_, by simp⟩, ⟨?_, by simp⟩, fun id => ⟨?_, by simp⟩,
            fun id parent scale => ⟨?_, by simp⟩⟩
          all_goals rintro (_ | ⟨_, ⟨⟩⟩)
  | shell | shutdown => simp [Task.treeEvents]

theorem hides_iff_of_events (session : Session) (id : WindowId) (task : Task) :
    session.Hides id task ↔ ∃ event ∈ task.treeEvents, session.desk.Hides id event := by
  obtain ⟨stopped, -, -, -⟩ := mem_treeEvents_iff task
  constructor
  · rintro ⟨isStop, isTopLevel⟩
    exact ⟨_, stopped.mpr isStop, rfl, isTopLevel⟩
  · rintro ⟨event, member, rfl, isTopLevel⟩
    exact ⟨stopped.mp member, isTopLevel⟩

theorem reveals_iff_of_events (session : Session) (id : WindowId) (task : Task) :
    session.Reveals id task ↔ ∃ event ∈ task.treeEvents, session.desk.Reveals id event := by
  obtain ⟨-, started, destroyed, moved⟩ := mem_treeEvents_iff task
  constructor
  · rintro (isStart | isRemoval | ⟨parent, scale, process, isMove, named, granted⟩)
    · exact ⟨_, started.mpr isStart, .inl rfl⟩
    · exact ⟨_, (destroyed id).mpr isRemoval, .inr (.inl rfl)⟩
    · exact ⟨_, (moved id parent scale).mpr ⟨process, isMove⟩,
        .inr (.inr ⟨parent, scale, rfl, named, granted⟩)⟩
  · rintro ⟨event, member, rfl | rfl | ⟨parent, scale, rfl, named, granted⟩⟩
    · exact .inl (started.mp member)
    · exact .inr (.inl ((destroyed id).mp member))
    · obtain ⟨process, isMove⟩ := (moved id parent scale).mp member
      exact .inr (.inr ⟨parent, scale, process, isMove, named, granted⟩)

/-- The windows after the events of a task: the law of one step, for tasks that are one event or
none, and for the start of a desktop, which hides and reveals nothing. -/
theorem hides_of_run (agrees : session.Agrees) (only : session.desk.HidesTopLevel) {last : Desk}
    {output : Output} (ran : session.desk.run task.treeEvents = .ok (last, output)) :
    last.HidesTopLevel ∧ ∀ id, last.scene.hides id = true ↔
      session.Hides id task ∨ (session.scene.hides id = true ∧ ¬ session.Reveals id task) := by
  rcases treeEvents_cases task with nothing | ⟨event, single⟩ | ⟨window, scalingCode, rfl⟩
  · rw [nothing] at ran
    cases ran
    exact ⟨only, fun id => by simp [hides_iff_of_events, reveals_iff_of_events, nothing, scene]⟩
  · rw [single] at ran
    obtain ⟨next, sent, later, stepped, ended, -⟩ := Desk.run_cons.mp ran
    cases ended
    obtain ⟨onlyNext, law⟩ := Desk.hides_of_step agrees.forest agrees.shows only stepped
    exact ⟨onlyNext, fun id => by
      simpa [hides_iff_of_events, reveals_iff_of_events, single, scene] using law id⟩
  · obtain ⟨middle, sent, later, prepared, ran, -⟩ := Desk.run_cons.mp ran
    obtain ⟨next, sent, later, registered, ended, -⟩ := Desk.run_cons.mp ran
    cases ended
    obtain ⟨onlyMiddle, first⟩ := Desk.hides_of_step agrees.forest agrees.shows only prepared
    have middleAgrees : middle.tree.Forest ∧ Shows middle.tree middle.scene := by
      rcases Desk.step_eq_ok prepared with rfl | ⟨change, accepted, rfl⟩
      · exact ⟨agrees.forest, agrees.shows⟩
      · exact ⟨agrees.forest.ofChange accepted,
          Desk.shows_of_change agrees.shows agrees.forest accepted⟩
    obtain ⟨onlyNext, second⟩ :=
      Desk.hides_of_step middleAgrees.1 middleAgrees.2 onlyMiddle registered
    refine ⟨onlyNext, fun id => ?_⟩
    rw [second, first]
    simp [Hides, Reveals, Desk.Hides, Desk.Reveals, scene]

/-- One task: a window is hidden afterwards if the task hides it, or if it was hidden and the task
does not reveal it. -/
theorem hides_of_dispatch (agrees : session.Agrees) (only : session.desk.HidesTopLevel)
    (dispatched : session.dispatch task = .ok reaction) :
    reaction.session.desk.HidesTopLevel ∧ ∀ id, reaction.session.scene.hides id = true ↔
      session.Hides id task ∨ (session.scene.hides id = true ∧ ¬ session.Reveals id task) := by
  obtain ⟨last, output, ran, same⟩ := exists_run_of_dispatch dispatched
  obtain ⟨onlyLast, law⟩ := hides_of_run agrees only ran
  refine ⟨same.hidesTopLevel onlyLast, fun id => ?_⟩
  rw [← law id]
  exact iff_of_eq (congrArg (· = true) (same.hides id))

/-! ## Runs -/

theorem hidesTopLevel_of_reaches (reaches : Reaches config directory tasks session) :
    session.Agrees ∧ session.desk.HidesTopLevel :=
  dispatchAll_preserves (motive := fun session => session.Agrees ∧ session.desk.HidesTopLevel)
    (fun _ _ _ ⟨agrees, only⟩ dispatched =>
      ⟨agrees.dispatch dispatched, (hides_of_dispatch agrees only dispatched).1⟩)
    ⟨agrees_fresh config directory, fun id hidden => by cases hidden⟩ reaches

/-- The last task of a run, and the session before it. -/
theorem Reaches.exists_before (reaches : Reaches config directory (tasks ++ [task]) session) :
    ∃ middle reaction, Reaches config directory tasks middle ∧
      middle.dispatch task = .ok reaction ∧ session = reaction.session := by
  obtain ⟨middle, ran, ranLast⟩ := dispatchAll_append.mp reaches
  obtain ⟨reaction, dispatched, ended⟩ := dispatchAll_cons.mp ranLast
  cases ended
  exact ⟨middle, reaction, ran, dispatched, rfl⟩

theorem hides_iff_since (reaches : Reaches config directory tasks session) (id : WindowId) :
    session.scene.hides id = true ↔
      Since (Reaches config directory) (Hides id) (Reveals id) tasks := by
  refine Since.iff_holds (Reaches config directory)
    (fun session => session.scene.hides id = true) ?_ ?_ reaches
  · intro start began hidden
    cases began
    cases hidden
  · intro earlier task next reachesNext
    obtain ⟨middle, reaction, ran, dispatched, rfl⟩ := reachesNext.exists_before
    obtain ⟨agrees, only⟩ := hidesTopLevel_of_reaches ran
    exact ⟨middle, ran, fun other ranToo => Except.ok.inj (ranToo.symm.trans ran),
      (hides_of_dispatch agrees only dispatched).2 id⟩

theorem backgrounded_concat (tasks : List Task) (task : Task) :
    backgrounded (tasks ++ [task]) =
      match task with
      | .host .activityStopped => true
      | .host .activityStarted => false
      | _ => backgrounded tasks :=
  List.foldl_append

/-- In the foreground nothing is hidden. -/
theorem backgrounded_of_hides (reaches : Reaches config directory tasks session)
    (hidden : session.scene.hides id = true) : backgrounded tasks = true := by
  induction tasks using List.reverseRecOn generalizing session with
  | nil =>
      cases reaches
      cases hidden
  | append_singleton tasks task inductionHypothesis =>
      obtain ⟨middle, reaction, ran, dispatched, rfl⟩ := reaches.exists_before
      obtain ⟨agrees, only⟩ := hidesTopLevel_of_reaches ran
      rcases ((hides_of_dispatch agrees only dispatched).2 id).mp hidden with
        ⟨rfl, -⟩ | ⟨wasHidden, stays⟩
      · exact backgrounded_concat tasks _
      · rw [backgrounded_concat, inductionHypothesis ran wasHidden]
        split
        · rfl
        · exact absurd (.inl rfl) stays
        · rfl

/-- After every run the host hides exactly the windows that were top-level ones when the activity
went to the background, and since then were neither destroyed nor moved under a parent, while the
activity did not come back. They are top-level windows still. In the foreground all views are
shown. -/
theorem hidden_iff_since_background (reaches : Reaches config directory tasks session) :
    (∀ id, (∃ view, session.scene.view? id = some view ∧ view.shown = false) ↔
      Since (Reaches config directory) (Hides id) (Reveals id) tasks) ∧
    (∀ id view, session.scene.view? id = some view → view.shown = false →
      session.tree.holds Node.isTopLevel id = true) ∧
    (backgrounded tasks = false →
      ∀ id view, session.scene.view? id = some view → view.shown = true) := by
  refine ⟨fun id => Scene.hides_iff.symm.trans (hides_iff_since reaches id),
    fun id view found hidden => ?_, fun foreground id view found => ?_⟩
  · exact (hidesTopLevel_of_reaches reaches).2 id (Scene.hides_iff.mpr ⟨view, found, hidden⟩)
  · by_contra hidden
    have isHidden : session.scene.hides id = true :=
      Scene.hides_iff.mpr ⟨view, found, by simpa using hidden⟩
    rw [backgrounded_of_hides reaches isHidden] at foreground
    cases foreground

/-- Two top-level windows come, and the activity goes to the background; then the first window
moves under the second one, and back to the top level. -/
def backgroundRun : List Task :=
  [.manager (.createWindow 48 false WindowId.absent Binary32.one 7),
    .manager (.createWindow 49 false WindowId.absent Binary32.one 7),
    .host .activityStopped,
    .manager (.setParent 48 49 Binary32.one 7),
    .manager (.setParent 48 WindowId.absent Binary32.one 7)]

/-- Of the two windows, the one that did not move is hidden until the activity comes back. -/
theorem hidden_iff_since_background_on_backgroundRun :
    (∃ session, Reaches {} none backgroundRun session ∧
      (∃ view, session.scene.view? 49 = some view ∧ view.shown = false) ∧
      Since (Reaches {} none) (Hides 49) (Reveals 49) backgroundRun ∧
      ¬ Since (Reaches {} none) (Hides 48) (Reveals 48) backgroundRun) ∧
    ∃ session view, Reaches {} none (backgroundRun ++ [.host .activityStarted]) session ∧
      backgrounded (backgroundRun ++ [.host .activityStarted]) = false ∧
      session.scene.view? 49 = some view ∧ view.shown = true := by
  have ends : ((fresh {} none).dispatchAll backgroundRun).map (fun last =>
      (last.scene.hides 49, last.scene.hides 48)) = .ok (true, false) := by
    decide +kernel
  have returns : ((fresh {} none).dispatchAll (backgroundRun ++ [.host .activityStarted])).map
      (fun last => (last.scene.view? 49).isSome) = .ok true := by
    decide +kernel
  obtain ⟨session, reaches, facts⟩ := map_eq_ok.mp ends
  obtain ⟨isHidden, isShown⟩ := Prod.mk.inj facts
  obtain ⟨hiddenIff, -, -⟩ := hidden_iff_since_background reaches
  have hidden := Scene.hides_iff.mp isHidden
  obtain ⟨later, reachesLater, hasView⟩ := map_eq_ok.mp returns
  obtain ⟨view, found⟩ := Option.isSome_iff_exists.mp hasView
  obtain ⟨-, -, shown⟩ := hidden_iff_since_background reachesLater
  refine ⟨⟨session, reaches, hidden, (hiddenIff 49).mp hidden, fun since => ?_⟩,
    later, view, reachesLater, rfl, found, shown rfl 49 view found⟩
  have alsoHidden := Scene.hides_iff.mpr ((hiddenIff 48).mpr since)
  rw [isShown] at alsoHidden
  cases alsoHidden

/-- A top-level window that was hidden when the activity went to the background is on show again,
although the activity has not come back. -/
theorem window_shown_in_background :
    ∃ session view, (fresh {} none).dispatchAll backgroundRun = .ok session ∧
      backgrounded backgroundRun = true ∧ session.tree.holds Node.isTopLevel 48 = true ∧
      session.scene.view? 48 = some view ∧ view.shown = true := by
  have ends : ((fresh {} none).dispatchAll backgroundRun).map (fun last =>
      (last.tree.holds Node.isTopLevel 48, (last.scene.view? 48).map View.shown)) =
        .ok (true, some true) := by
    decide +kernel
  obtain ⟨session, ran, facts⟩ := map_eq_ok.mp ends
  obtain ⟨isTopLevel, shows⟩ := Prod.mk.inj facts
  obtain ⟨view, found, shown⟩ := Option.map_eq_some_iff.mp shows
  exact ⟨session, view, ran, rfl, isTopLevel, found, shown⟩

end Session

end WindowRelay
