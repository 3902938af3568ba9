import WindowRelay.Proofs.Desk.Structure
import WindowRelay.Proofs.Scene.Containers
import WindowRelay.Session.Dispatch

/-!
Contract: runs of tasks on a session.

Owns:
- dispatching tasks one after the other, also those that come after the session has ended;
- the events about windows as which a task is applied: it does to the windows what they do, and what
  they preserve, every task preserves;
- the tasks that change the router;
- the windows of every session that tasks lead to form a forest.
-/

namespace WindowRelay

/-! ## The events of a task -/

/-- The events about windows as which an event of the window manager is applied. -/
def ManagerEvent.treeEvents : ManagerEvent → List TreeEvent
  | .createDesktop window _ =>
    [.create WindowId.messageOnly WindowId.absent Binary32.one false 0, .createDesktop window]
  | .createWindow window accelerated parent scale process =>
    [.create window parent scale accelerated process]
  | .destroyWindow window => [.destroy window]
  | .setParent window parent scale _ => [.reparent window parent scale]
  | .setPosition window flags insertAfter owner style windowRect clientRect visibleRect =>
    [.position window
      { flags := PositionFlags.ofRaw flags, insertAfter, owner, style := Style.ofRaw style,
        windowRect, clientRect, visibleRect }]
  | .setFocus window => [.focus window]
  | .setText window text => [.setText window text]
  | .setIcon window width height pixels =>
    match pixels with
    | none => [.setIcon window none]
    | some pixels =>
      match Icon.forWindow window width height pixels with
      | .ok icon => [.setIcon window (some icon)]
      | .error _ => []
  | .setCursor _ | .closeWindow _ | .pollClipboard | .setClipboard _ => []

/-- The events about windows as which an event of the host is applied. -/
def HostEvent.treeEvents : HostEvent → List TreeEvent
  | .surfaceAvailable window client surface =>
    [.surfaceAvailable window (Surface.Kind.ofClientFlag client) surface]
  | .surfaceDestroyed window client =>
    [.surfaceDestroyed window (Surface.Kind.ofClientFlag client)]
  | .viewVisibility window client visible =>
    [.viewVisibility window (Surface.Kind.ofClientFlag client) visible]
  | .activityStarted => [.activityStarted]
  | .activityStopped => [.activityStopped]
  | _ => []

/-- The events about windows as which a task is applied, in order. -/
def Task.treeEvents : Task → List TreeEvent
  | .manager event => event.treeEvents
  | .host event => event.treeEvents
  | .shell _ | .shutdown => []

/-- The task that brings the registration of a desktop window, or the removal of a window, is about
this window. -/
theorem Task.names_of_mem {task : Task} {event : TreeEvent} (member : event ∈ task.treeEvents) :
    (∀ window, event = .createDesktop window →
        ∃ scalingCode, task = .manager (.createDesktop window scalingCode)) ∧
      ∀ root, event = .destroy root → task = .manager (.destroyWindow root) := by
  cases task with
  | manager event =>
      cases event with
      | createDesktop window scalingCode =>
          rcases List.mem_cons.mp member with rfl | isDesktop
          · exact ⟨nofun, nofun⟩
          · cases List.mem_singleton.mp isDesktop
            refine ⟨fun other isOther => ?_, nofun⟩
            cases isOther
            exact ⟨scalingCode, rfl⟩
      | destroyWindow window =>
          cases List.mem_singleton.mp member
          refine ⟨nofun, fun other isOther => ?_⟩
          cases isOther
          rfl
      | setIcon window width height pixels =>
          unfold Task.treeEvents ManagerEvent.treeEvents at member
          dsimp only at member
          repeat' split at member
          · cases List.mem_singleton.mp member
            exact ⟨nofun, nofun⟩
          · cases List.mem_singleton.mp member
            exact ⟨nofun, nofun⟩
          · cases member
      | createWindow | setParent | setPosition | setFocus | setText =>
          cases List.mem_singleton.mp member
          exact ⟨nofun, nofun⟩
      | setCursor | closeWindow | pollClipboard | setClipboard => cases member
  | host event =>
      cases event with
      | surfaceAvailable | surfaceDestroyed | viewVisibility | activityStarted | activityStopped =>
          cases List.mem_singleton.mp member
          exact ⟨nofun, nofun⟩
      | _ => cases member
  | shell | shutdown => cases member

/-- A task that removes windows is the removal of the one at their root. -/
theorem Task.eq_destroyWindow_of_mem {task : Task} {root : WindowId}
    (member : .destroy root ∈ task.treeEvents) : task = .manager (.destroyWindow root) :=
  (Task.names_of_mem member).2 root rfl

/-- A desk whose windows are scaled anew. -/
def Desk.withScale (desk : Desk) (scale : Binary32) : Desk :=
  { desk with tree := { desk.tree with dpiScale := scale } }

/-- The same windows and views: the scale of the desktop may differ, and what else the host
keeps. -/
structure Desk.SameWindows (before after : Desk) : Prop where
  tree : after.tree = { before.tree with dpiScale := after.tree.dpiScale }
  views : after.scene.views = before.scene.views
  desktop : after.scene.desktop = before.scene.desktop

theorem Desk.SameWindows.refl (desk : Desk) : SameWindows desk desk := ⟨rfl, rfl, rfl⟩

theorem Desk.SameWindows.of_scaled {before after : Desk} {scale : Binary32}
    (scaled : after = before.withScale scale) : SameWindows before after :=
  scaled ▸ ⟨rfl, rfl, rfl⟩

namespace Session

variable {session last : Session} {task : Task} {tasks : List Task} {reaction : Reaction}

/-! ## Parts that leave desk and router alone -/

/-- The same windows, the same scene and the same gestures. -/
structure SameCore (before after : Session) : Prop where
  desk : after.desk = before.desk
  router : after.router = before.router

theorem sameCore_submitAll (session : Session) (requests : List CommandRequest) :
    SameCore session (session.submitAll requests).1 := by
  induction requests generalizing session with
  | nil => exact ⟨rfl, rfl⟩
  | cons request rest inductionHypothesis =>
      have later := inductionHypothesis (session.submit request).1
      exact ⟨later.desk, later.router⟩

theorem sameCore_firstRun (session : Session) : SameCore session session.firstRun.1 := by
  unfold firstRun
  split
  · exact ⟨rfl, rfl⟩
  · split
    · exact ⟨rfl, rfl⟩
    · have submitted := sameCore_submitAll session
        (session.config.startup.firstRunCommands.map fun arguments =>
          CommandRequest.array arguments none)
      exact ⟨submitted.desk, submitted.router⟩

/-! ## The desk after a task -/

/-- An event on the desk of a session carries out its change, or leaves the session as it is. -/
theorem onDesk_eq_ok {event : TreeEvent} {andThen : Session → List Call}
    (applied : session.onDesk event andThen = .ok reaction) :
    reaction.session = session ∨
      ∃ change, session.tree.change session.scene.hasViews event = .ok change ∧
        reaction.session = { session with desk := (session.desk.carryOut change).1 } := by
  unfold onDesk Desk.apply at applied
  cases outcome : session.desk.tree.change session.desk.scene.hasViews event with
  | ok change =>
      rw [outcome] at applied
      cases applied
      exact .inr ⟨change, outcome, rfl⟩
  | error cause =>
      rw [outcome] at applied
      cases cause with
      | refused error =>
          cases applied
          exact .inl rfl
      | interrupted interruption => cases applied

/-- The message-only window comes with the desktop, unless it is there already. -/
theorem withMessageWindow_eq_ok {prepared : Session}
    (computed : session.withMessageWindow = .ok prepared) :
    prepared = session ∨
      ∃ change, session.tree.change session.scene.hasViews
          (.create WindowId.messageOnly WindowId.absent Binary32.one false 0) = .ok change ∧
        prepared = { session with desk := (session.desk.carryOut change).1 } := by
  unfold withMessageWindow at computed
  split at computed
  · cases computed
    exact .inl rfl
  · obtain ⟨⟨desk, output⟩, stepped, rest⟩ := bind_eq_ok.mp computed
    cases rest
    rcases Desk.step_eq_ok stepped with rfl | ⟨change, accepted, rfl⟩
    · exact .inl rfl
    · exact .inr ⟨change, accepted, rfl⟩

/-- Only the windows and the scene change with it. -/
theorem exists_desk_of_withMessageWindow {prepared : Session}
    (computed : session.withMessageWindow = .ok prepared) :
    ∃ desk, prepared = { session with desk } := by
  rcases withMessageWindow_eq_ok computed with rfl | ⟨change, -, rfl⟩
  · exact ⟨prepared.desk, rfl⟩
  · exact ⟨_, rfl⟩

theorem createDesktop_eq_ok {window : WindowId} {scalingCode : UInt32}
    (created : session.createDesktop window scalingCode = .ok reaction) :
    ∃ prepared, session.withMessageWindow = .ok prepared ∧
      reaction.session.router = prepared.router ∧
      (reaction.session.desk = prepared.desk ∨
        ∃ change scale, prepared.tree.change prepared.scene.hasViews (.createDesktop window) =
            .ok change ∧
          reaction.session.desk = (prepared.desk.carryOut change).1.withScale scale) := by
  unfold createDesktop Desk.apply at created
  obtain ⟨prepared, preparing, rest⟩ := bind_eq_ok.mp created
  refine ⟨prepared, preparing, ?_⟩
  cases outcome : prepared.desk.tree.change prepared.desk.scene.hasViews
      (.createDesktop window) with
  | ok change =>
      rw [outcome] at rest
      cases rest
      have started := sameCore_firstRun
        ({ prepared with desk := { (prepared.desk.carryOut change).1 with tree :=
            { (prepared.desk.carryOut change).1.tree with
              dpiScale := (scaling session.config.display.startupDpi scalingCode).1 } } }).unlock.1
      exact ⟨started.router, .inr ⟨change, _, outcome, started.desk⟩⟩
  | error cause =>
      rw [outcome] at rest
      cases cause with
      | refused error =>
          cases rest
          exact ⟨rfl, .inl rfl⟩
      | interrupted interruption => cases rest

/-! ## The five ways in which tasks are handled -/

/-- How a task is handled: without the windows, their views and the router; as one event about
windows; as the removal of a window, whose gesture is dropped; as the start of a desktop; by the
router. -/
inductive Handles (session : Session) : Task → Except Interruption Reaction → Prop where
  | aside {task : Task} {reaction : Reaction} (events : task.treeEvents = [])
      (tree : reaction.session.tree = session.tree)
      (router : reaction.session.router = session.router)
      (views : reaction.session.scene.views = session.scene.views)
      (desktop : reaction.session.scene.desktop = session.scene.desktop) :
      Handles session task (.ok reaction)
  | event {task : Task} {event : TreeEvent} {andThen : Session → List Call}
      (events : task.treeEvents = [event]) : Handles session task (session.onDesk event andThen)
  | destroyWindow (window : WindowId) : Handles session (.manager (.destroyWindow window))
      ({ session with router := session.router.forget window }.onDesk (.destroy window))
  | createDesktop (window : WindowId) (scalingCode : UInt32) :
      Handles session (.manager (.createDesktop window scalingCode))
        (session.createDesktop window scalingCode)
  | motion (sample : MotionSample) : Handles session (.host (.motion sample))
      (session.dispatch (.host (.motion sample)))

theorem handles_setIcon (session : Session) (window : WindowId) (width height : UInt32)
    (pixels : Option (List UInt32)) :
    session.Handles (.manager (.setIcon window width height pixels))
      (session.dispatch (.manager (.setIcon window width height pixels))) := by
  cases pixels with
  | none =>
      simp only [dispatch, onManager]
      exact .event rfl
  | some pixels =>
      cases admitted : Icon.forWindow window width height pixels with
      | ok icon =>
          simp only [dispatch, onManager, admitted]
          exact .event (by simp only [Task.treeEvents, ManagerEvent.treeEvents, admitted])
      | error error =>
          simp only [dispatch, onManager, admitted]
          refine .aside ?_ rfl rfl rfl rfl
          simp only [Task.treeEvents, ManagerEvent.treeEvents, admitted]

theorem handles_manager (session : Session) (event : ManagerEvent) :
    session.Handles (.manager event) (session.dispatch (.manager event)) := by
  cases event with
  | createDesktop window scalingCode => exact .createDesktop window scalingCode
  | destroyWindow window => exact .destroyWindow window
  | setIcon window width height pixels => exact handles_setIcon session window width height pixels
  | setCursor request =>
      cases admitted : request.admit with
      | ok cursor =>
          simp only [dispatch, onManager, admitted]
          exact .aside rfl rfl rfl rfl rfl
      | error error =>
          simp only [dispatch, onManager, admitted]
          exact .aside rfl rfl rfl rfl rfl
  | closeWindow | pollClipboard | setClipboard => exact .aside rfl rfl rfl rfl rfl
  | createWindow | setParent | setPosition | setFocus | setText =>
      simp only [dispatch, onManager]
      exact .event rfl

theorem handles_host (session : Session) (event : HostEvent) :
    session.Handles (.host event) (session.dispatch (.host event)) := by
  cases event with
  | motion sample => exact .motion sample
  | surfaceAvailable | surfaceDestroyed | viewVisibility | activityStarted | activityStopped =>
      simp only [dispatch, onHost]
      exact .event rfl
  | _ => exact .aside rfl rfl rfl rfl rfl

theorem handles (session : Session) (task : Task) :
    session.Handles task (session.dispatch task) := by
  cases task with
  | manager event => exact handles_manager session event
  | host event => exact handles_host session event
  | shell command => cases command <;> exact .aside rfl rfl rfl rfl rfl
  | shutdown => exact .aside rfl rfl rfl rfl rfl

theorem motion_eq_ok {sample : MotionSample}
    (dispatched : session.dispatch (.host (.motion sample)) = .ok reaction) :
    ∃ routed, session.router.motion session.tree sample session.callsOpen = .ok routed ∧
      reaction.session.tree = session.tree ∧ reaction.session.router = routed.router := by
  obtain ⟨routed, routing, rest⟩ := bind_eq_ok.mp dispatched
  cases rest
  exact ⟨routed, mapError_eq_ok.mp routing, rfl, rfl⟩

/-! ## The events of a task and its windows -/

theorem step_of_onDesk {event : TreeEvent} {andThen : Session → List Call}
    (applied : session.onDesk event andThen = .ok reaction) :
    ∃ output, session.desk.step event = .ok (reaction.session.desk, output) := by
  unfold onDesk at applied
  unfold Desk.step
  cases outcome : session.desk.apply event with
  | ok result =>
      rw [outcome] at applied
      cases applied
      exact ⟨result.2, rfl⟩
  | error cause =>
      rw [outcome] at applied
      cases cause with
      | refused error =>
          cases applied
          exact ⟨{}, rfl⟩
      | interrupted interruption => cases applied

theorem step_of_withMessageWindow {prepared : Session}
    (computed : session.withMessageWindow = .ok prepared) :
    ∃ output, session.desk.step (.create WindowId.messageOnly WindowId.absent Binary32.one false 0) =
      .ok (prepared.desk, output) := by
  unfold withMessageWindow at computed
  split at computed
  · next live =>
      cases computed
      have named : WindowId.messageOnly ≠ WindowId.absent := by decide
      have refused : session.desk.tree.create session.desk.scene.hasViews WindowId.messageOnly
          WindowId.absent Binary32.one false 0 =
            .error (.refused (.alreadyExists WindowId.messageOnly)) := by
        have isLive : session.desk.tree.isLive WindowId.messageOnly = true := live
        simp [Tree.create, named, isLive]
      exact ⟨{}, by simp [Desk.step, Desk.apply, Tree.change, refused, Except.map]⟩
  · obtain ⟨⟨desk, output⟩, stepped, rest⟩ := bind_eq_ok.mp computed
    cases rest
    exact ⟨output, stepped⟩

theorem step_of_createDesktop {window : WindowId} {scalingCode : UInt32}
    (created : session.createDesktop window scalingCode = .ok reaction) :
    ∃ prepared last output, session.withMessageWindow = .ok prepared ∧
      prepared.desk.step (.createDesktop window) = .ok (last, output) ∧
      last.SameWindows reaction.session.desk := by
  unfold createDesktop at created
  obtain ⟨prepared, preparing, rest⟩ := bind_eq_ok.mp created
  cases outcome : prepared.desk.apply (.createDesktop window) with
  | ok result =>
      obtain ⟨last, output⟩ := result
      rw [outcome] at rest
      cases rest
      have started := sameCore_firstRun
        ({ prepared with desk :=
            last.withScale (scaling session.config.display.startupDpi scalingCode).1 }).unlock.1
      exact ⟨prepared, last, output, preparing, by rw [Desk.step, outcome],
        .of_scaled started.desk⟩
  | error cause =>
      rw [outcome] at rest
      cases cause with
      | refused error =>
          cases rest
          exact ⟨prepared, prepared.desk, {}, preparing, by rw [Desk.step, outcome], .refl _⟩
      | interrupted interruption => cases rest

/-- A task does to the windows and their views what its events do. -/
theorem exists_run_of_dispatch (dispatched : session.dispatch task = .ok reaction) :
    ∃ last output, session.desk.run task.treeEvents = .ok (last, output) ∧
      Desk.SameWindows last reaction.session.desk := by
  have single : ∀ {desk last : Desk} {event : TreeEvent} {output : Output},
      desk.step event = .ok (last, output) → ∃ output, desk.run [event] = .ok (last, output) :=
    fun stepped => ⟨_, Desk.run_cons.mpr ⟨_, _, {}, stepped, rfl, rfl⟩⟩
  have handled := session.handles task
  rw [dispatched] at handled
  generalize outcomeIs : Except.ok reaction = outcome at handled
  cases handled with
  | aside events tree _ views desktop =>
      cases outcomeIs
      have sameTree : reaction.session.desk.tree = session.desk.tree := tree
      exact ⟨session.desk, {}, by rw [events]; rfl, by rw [sameTree], views, desktop⟩
  | event events =>
      obtain ⟨output, stepped⟩ := step_of_onDesk outcomeIs.symm
      obtain ⟨output, ran⟩ := single stepped
      exact ⟨_, output, events ▸ ran, .refl _⟩
  | destroyWindow window =>
      obtain ⟨output, stepped⟩ := step_of_onDesk outcomeIs.symm
      obtain ⟨output, ran⟩ := single stepped
      exact ⟨_, output, ran, .refl _⟩
  | motion sample =>
      obtain ⟨routed, -, rest⟩ := bind_eq_ok.mp outcomeIs.symm
      cases rest
      exact ⟨session.desk, {}, rfl, .refl _⟩
  | createDesktop window scalingCode =>
      obtain ⟨prepared, last, output, preparing, stepped, same⟩ :=
        step_of_createDesktop outcomeIs.symm
      obtain ⟨before, prepares⟩ := step_of_withMessageWindow preparing
      obtain ⟨output, ran⟩ := single stepped
      exact ⟨last, _, Desk.run_cons.mpr ⟨_, _, _, prepares, ran, rfl⟩, same⟩

/-! ## What every task preserves -/

/-- What the events of a task preserve, other work on the scene and a new scale of the desktop do,
the task preserves. -/
theorem dispatch_preserves_desk {motive : Desk → Prop}
    (changes : ∀ event ∈ task.treeEvents, ∀ (desk : Desk) change, motive desk →
      desk.tree.change desk.scene.hasViews event = .ok change → motive (desk.carryOut change).1)
    (scenes : ∀ (desk : Desk) scene, Scene.SameContainers desk.scene scene → motive desk →
      motive { desk with scene })
    (scales : ∀ (desk : Desk) scale, motive desk → motive (desk.withScale scale))
    (start : motive session.desk) (dispatched : session.dispatch task = .ok reaction) :
    motive reaction.session.desk := by
  have onDesk : ∀ (before : Session) (event : TreeEvent) (andThen : Session → List Call),
      event ∈ task.treeEvents → motive before.desk →
      before.onDesk event andThen = .ok reaction → motive reaction.session.desk := by
    intro before event andThen member startBefore applied
    rcases onDesk_eq_ok applied with same | ⟨change, accepted, carriedOut⟩
    · rw [same]
      exact startBefore
    · rw [carriedOut]
      exact changes event member before.desk change startBefore accepted
  have handled := session.handles task
  rw [dispatched] at handled
  generalize outcomeIs : Except.ok reaction = outcome at handled
  cases handled with
  | aside _ tree _ views desktop =>
      cases outcomeIs
      have sceneOnly : reaction.session.desk =
          { session.desk with scene := reaction.session.desk.scene } :=
        congrArg (Desk.mk · reaction.session.desk.scene) tree
      rw [sceneOnly]
      exact scenes session.desk _ (.of_views views desktop) start
  | event events => exact onDesk session _ _ (by simp [events]) start outcomeIs.symm
  | destroyWindow window =>
      exact onDesk { session with router := session.router.forget window } _ _
        List.mem_cons_self start outcomeIs.symm
  | motion sample =>
      obtain ⟨routed, -, rest⟩ := bind_eq_ok.mp outcomeIs.symm
      cases rest
      exact start
  | createDesktop window scalingCode =>
      obtain ⟨prepared, preparing, -, desktop⟩ := createDesktop_eq_ok outcomeIs.symm
      have ready : motive prepared.desk := by
        rcases withMessageWindow_eq_ok preparing with rfl | ⟨change, accepted, rfl⟩
        · exact start
        · exact changes _ List.mem_cons_self session.desk change start accepted
      rcases desktop with same | ⟨change, scale, accepted, scaled⟩
      · rw [same]
        exact ready
      · rw [scaled]
        exact scales _ scale
          (changes _ (by simp [Task.treeEvents, ManagerEvent.treeEvents]) prepared.desk change
            ready accepted)

/-- The same about the windows alone. -/
theorem dispatch_preserves {motive : Tree → Prop}
    (changes : ∀ event ∈ task.treeEvents, ∀ tree hasViews change, motive tree →
      tree.change hasViews event = .ok change → motive change.tree)
    (scales : ∀ tree scale, motive tree → motive { tree with dpiScale := scale })
    (start : motive session.tree) (dispatched : session.dispatch task = .ok reaction) :
    motive reaction.session.tree :=
  dispatch_preserves_desk (motive := fun desk => motive desk.tree)
    (fun event member desk change kept accepted =>
      changes event member desk.tree _ change kept accepted)
    (fun _ _ _ kept => kept) (fun desk scale kept => scales desk.tree scale kept) start dispatched

/-- Only the removal of a window and a motion reach the router. -/
theorem router_of_dispatch (dispatched : session.dispatch task = .ok reaction) :
    ((∀ root, task ≠ .manager (.destroyWindow root)) ∧
        reaction.session.router = session.router) ∨
      (∃ root, task = .manager (.destroyWindow root) ∧
        reaction.session.router = session.router.forget root) ∨
      ∃ sample routed, task = .host (.motion sample) ∧
        session.router.motion session.tree sample session.callsOpen = .ok routed ∧
        reaction.session.router = routed.router := by
  by_cases isDestroy : ∃ root, task = .manager (.destroyWindow root)
  · obtain ⟨root, rfl⟩ := isDestroy
    cases dispatched
    exact .inr (.inl ⟨root, rfl, rfl⟩)
  · have notDestroy : ∀ root, task ≠ .manager (.destroyWindow root) :=
      fun root isThis => isDestroy ⟨root, isThis⟩
    have handled := session.handles task
    rw [dispatched] at handled
    generalize outcomeIs : Except.ok reaction = outcome at handled
    cases handled with
    | aside _ _ router =>
        cases outcomeIs
        exact .inl ⟨notDestroy, router⟩
    | event events =>
        refine .inl ⟨notDestroy, ?_⟩
        rcases onDesk_eq_ok outcomeIs.symm with same | ⟨change, -, carriedOut⟩
        · rw [same]
        · rw [carriedOut]
    | destroyWindow window => exact absurd rfl (notDestroy window)
    | motion sample =>
        obtain ⟨routed, moved, -, router⟩ := motion_eq_ok dispatched
        exact .inr (.inr ⟨sample, routed, rfl, moved, router⟩)
    | createDesktop window scalingCode =>
        refine .inl ⟨notDestroy, ?_⟩
        obtain ⟨prepared, preparing, router, -⟩ := createDesktop_eq_ok outcomeIs.symm
        obtain ⟨desk, rfl⟩ := exists_desk_of_withMessageWindow preparing
        exact router

/-! ## Runs -/

/-- Dispatch tasks one after the other, whether or not the session has ended meanwhile. -/
def dispatchAll (session : Session) : List Task → Except Interruption Session
  | [] => .ok session
  | task :: rest => do
    let reaction ← session.dispatch task
    reaction.session.dispatchAll rest

theorem dispatchAll_cons {rest : List Task} :
    session.dispatchAll (task :: rest) = .ok last ↔
      ∃ reaction, session.dispatch task = .ok reaction ∧
        reaction.session.dispatchAll rest = .ok last :=
  bind_eq_ok

theorem dispatchAll_append {earlier later : List Task} :
    session.dispatchAll (earlier ++ later) = .ok last ↔
      ∃ middle, session.dispatchAll earlier = .ok middle ∧ middle.dispatchAll later = .ok last := by
  induction earlier generalizing session with
  | nil =>
      constructor
      · exact fun ran => ⟨session, rfl, ran⟩
      · rintro ⟨middle, nothing, ran⟩
        cases nothing
        exact ran
  | cons task rest inductionHypothesis =>
      rw [List.cons_append, dispatchAll_cons]
      constructor
      · rintro ⟨reaction, dispatched, ran⟩
        obtain ⟨middle, ranRest, ranLater⟩ := inductionHypothesis.mp ran
        exact ⟨middle, dispatchAll_cons.mpr ⟨reaction, dispatched, ranRest⟩, ranLater⟩
      · rintro ⟨middle, ran, ranLater⟩
        obtain ⟨reaction, dispatched, ranRest⟩ := dispatchAll_cons.mp ran
        exact ⟨reaction, dispatched, inductionHypothesis.mpr ⟨middle, ranRest, ranLater⟩⟩

/-- What one task preserves, every run preserves. -/
theorem dispatchAll_preserves {motive : Session → Prop}
    (preserves : ∀ session task reaction, motive session → session.dispatch task = .ok reaction →
      motive reaction.session)
    (start : motive session) (ran : session.dispatchAll tasks = .ok last) : motive last := by
  induction tasks generalizing session with
  | nil =>
      cases ran
      exact start
  | cons task rest inductionHypothesis =>
      obtain ⟨reaction, dispatched, ranRest⟩ := dispatchAll_cons.mp ran
      exact inductionHypothesis (preserves session task reaction start dispatched) ranRest

end Session

theorem Tree.Forest.withScale {tree : Tree} (forest : tree.Forest) (scale : Binary32) :
    Tree.Forest { tree with dpiScale := scale } :=
  forest.ofSameOutline ⟨fun _ => rfl, rfl, rfl⟩

namespace Session

variable {session last : Session} {task : Task} {tasks : List Task} {reaction : Reaction}

theorem forest_fresh (config : Config) (prefixDirectory : Option PrefixDirectory) :
    (fresh config prefixDirectory).tree.Forest :=
  Tree.forest_empty

theorem forest_of_dispatch (forest : session.tree.Forest)
    (dispatched : session.dispatch task = .ok reaction) : reaction.session.tree.Forest := by
  refine dispatch_preserves (motive := Tree.Forest) ?_ (fun tree scale kept => kept.withScale scale)
    forest dispatched
  exact fun event _ tree hasViews change kept accepted => kept.ofChange accepted

/-- What the events of a task preserve in a forest, the task preserves. -/
theorem dispatch_preserves_onForest {motive : Tree → Prop} (forest : session.tree.Forest)
    (changes : ∀ event ∈ task.treeEvents, ∀ tree hasViews change, tree.Forest → motive tree →
      tree.change hasViews event = .ok change → motive change.tree)
    (scales : ∀ tree scale, motive tree → motive { tree with dpiScale := scale })
    (start : motive session.tree) (dispatched : session.dispatch task = .ok reaction) :
    motive reaction.session.tree := by
  refine (dispatch_preserves (motive := fun tree => tree.Forest ∧ motive tree) ?_ ?_
    ⟨forest, start⟩ dispatched).2
  · rintro event member tree hasViews change ⟨forest, kept⟩ accepted
    exact ⟨forest.ofChange accepted, changes event member tree hasViews change forest kept accepted⟩
  · rintro tree scale ⟨forest, kept⟩
    exact ⟨forest.withScale scale, scales tree scale kept⟩

theorem forest_of_dispatchAll (forest : session.tree.Forest)
    (ran : session.dispatchAll tasks = .ok last) : last.tree.Forest :=
  dispatchAll_preserves (motive := fun session => session.tree.Forest)
    (fun _ _ _ kept dispatched => forest_of_dispatch kept dispatched) forest ran

/-- A motion of a mouse without a button. -/
def mouseMotion (window : WindowId) (action : MotionAction) (x y : Nat) : HostEvent :=
  .motion
    { window, source := InputSource.mouse, action := action.code, x := Binary32.ofNat x,
      y := Binary32.ofNat y }

end Session

end WindowRelay
