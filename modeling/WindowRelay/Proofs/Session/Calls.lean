import WindowRelay.Proofs.Session.Runs
import WindowRelay.Proofs.Startup.Gate
import WindowRelay.Proofs.Tree.Calls

/-!
Contract: where the calls of a session come from.

Owns:
- the calls of plain numbers, and the few kinds of calls that carry more;
- the calls of a task, whether it is done or interrupted: each of them is of plain numbers or stems
  from one of five sources.
-/

namespace WindowRelay

namespace Call

/-- A call of plain numbers: it carries neither text nor axes. -/
def isBare : Call → Bool
  | .gamepadAxis .. | .gamepadData .. | .imeSetText .. | .clipboardUpdate .. | .runCommandLine ..
  | .runCommandArray .. => false
  | _ => true

theorem isBare_of_concernsWindow {call : Call} (about : call.concernsWindow = true) :
    call.isBare = true := by
  cases call <;> first | rfl | cases about

end Call

/-! ## The calls of some work -/

/-- The calls of some work: those of its result, or those in front of its interruption. -/
def sentBy {α : Type} (read : α → List Call) : Except Interruption α → List Call
  | .ok value => read value
  | .error interruption => interruption.sent

section Sending

variable {β γ : Type} {motive : Call → Prop} {read : γ → List Call}

/-- Work behind other work, whose own calls the later work may pass on. -/
theorem forall_sentBy_bind {first : Except Interruption β} {next : β → Except Interruption γ}
    (own : β → List Call) (start : ∀ call ∈ sentBy own first, motive call)
    (later : ∀ value, first = .ok value → (∀ call ∈ own value, motive call) →
      ∀ call ∈ sentBy read (next value), motive call) :
    ∀ call ∈ sentBy read (first >>= next), motive call := by
  cases first with
  | ok value => exact later value rfl start
  | error interruption => exact start

/-- Arithmetic behind some calls. -/
theorem forall_sentBy_after {earlier : List Call} (sent : ∀ call ∈ earlier, motive call)
    (outcome : Except Overflow β) :
    ∀ call ∈ sentBy (fun _ => earlier) (Interruption.after earlier outcome), motive call := by
  cases outcome <;> exact sent

end Sending

/-! ## Pointer and key events -/

namespace Router

variable {router : Router} {sample : MotionSample} {calls : List Call}

theorem isBare_verticalWheelCalls {x y : Coordinate}
    (computed : router.verticalWheelCalls sample x y = .ok calls) :
    ∀ call ∈ calls, call.isBare = true := by
  unfold verticalWheelCalls at computed
  dsimp only at computed
  split at computed
  · cases computed
    exact List.forall_mem_nil _
  · split at computed
    · obtain ⟨amount, -, rest⟩ := bind_eq_ok.mp computed
      cases rest
      simp [Call.isBare]
    · cases computed
      simp [Call.isBare]

theorem isBare_horizontalWheelCalls {x y : Coordinate}
    (computed : router.horizontalWheelCalls sample x y = .ok calls) :
    ∀ call ∈ calls, call.isBare = true := by
  unfold horizontalWheelCalls at computed
  dsimp only at computed
  split at computed
  · cases computed
    exact List.forall_mem_nil _
  · split at computed
    · cases computed
      simp [Call.isBare]
    · obtain ⟨amount, -, rest⟩ := bind_eq_ok.mp computed
      cases rest
      simp [Call.isBare]

/-- A wheel that turned both ways may be interrupted behind its first call. -/
theorem isBare_wheelCalls (router : Router) (sample : MotionSample) (x y : Coordinate) :
    ∀ call ∈ sentBy id (router.wheelCalls sample x y), call.isBare = true := by
  unfold wheelCalls
  refine forall_sentBy_bind _ (forall_sentBy_after (List.forall_mem_nil _) _)
    fun vertical turned _ => ?_
  have first : ∀ call ∈ vertical, call.isBare = true :=
    isBare_verticalWheelCalls (Interruption.after_eq_ok_iff.mp turned)
  refine forall_sentBy_bind _ (forall_sentBy_after first _) fun horizontal turnedToo _ => ?_
  have second : ∀ call ∈ horizontal, call.isBare = true :=
    isBare_horizontalWheelCalls (Interruption.after_eq_ok_iff.mp turnedToo)
  intro call member
  rcases List.mem_append.mp member with before | after
  · exact first call before
  · exact second call after

theorem isBare_scrollCalls (router : Router) (gesture : Gesture) (window : WindowId)
    (buttons : UInt32) (amounts : Coordinate × Coordinate) :
    ∀ call ∈ router.scrollCalls gesture window buttons amounts, call.isBare = true := by
  intro call member
  unfold scrollCalls at member
  dsimp only at member
  rcases List.mem_append.mp member with across | along
  · split at across
    · cases across
    · rw [List.mem_singleton.mp across]
      rfl
  · split at along
    · cases along
    · rw [List.mem_singleton.mp along]
      rfl

theorem isBare_endGesture (router : Router) (gesture : Gesture) (window : WindowId)
    (buttons : UInt32) (amounts : Coordinate × Coordinate) (handled : Bool) :
    ∀ call ∈ (router.endGesture gesture window buttons amounts handled).calls,
      call.isBare = true := by
  intro call member
  rcases List.mem_append.mp member with scrolled | moved
  · exact isBare_scrollCalls router gesture window buttons amounts call scrolled
  · rw [List.mem_singleton.mp moved]
    rfl

theorem isBare_touch (router : Router) (sample : MotionSample) (action : Option MotionAction)
    (x y : Coordinate) (handled : Bool) :
    ∀ call ∈ sentBy Routed.calls (router.touch sample action x y handled),
      call.isBare = true := by
  have plain : ∀ call ∈ (router.plain sample x y handled).calls, call.isBare = true := by
    simp [Router.plain, Call.isBare]
  unfold touch
  dsimp only
  split
  · simp [sentBy, pure, Except.pure, Call.isBare]
  · split
    · exact plain
    · next gesture _ =>
        split
        · exact plain
        · split
          · exact forall_sentBy_bind _ (forall_sentBy_after (List.forall_mem_nil _) _)
              fun amounts _ _ => isBare_scrollCalls router gesture _ _ amounts
          · exact isBare_endGesture router gesture _ _ _ handled
          · exact forall_sentBy_bind _ (forall_sentBy_after (List.forall_mem_nil _) _)
              fun amounts _ _ => isBare_endGesture router gesture _ _ amounts handled
          · exact plain

/-- The calls of a motion are of plain numbers, but for the axes of a joystick. -/
theorem calls_motion (router : Router) (tree : Tree) (sample : MotionSample) (handled : Bool) :
    ∀ call ∈ sentBy Routed.calls (router.motion tree sample handled), call.isBare = true ∨
      call = .gamepadAxis sample.device (joystickAxes sample.axes) := by
  unfold motion
  split
  · exact List.forall_mem_nil _
  · next node _ =>
      split
      · exact List.forall_mem_nil _
      · unfold motionOn
        dsimp only
        split
        · intro call member
          exact .inr (List.mem_singleton.mp member)
        · split
          · exact forall_sentBy_bind id
              (fun call member => .inl (isBare_wheelCalls router sample _ _ call member))
              fun calls _ passedOn => passedOn
          · split
            · split
              · intro call member
                rw [List.mem_singleton.mp member]
                exact .inl rfl
              · exact List.forall_mem_nil _
            · exact fun call member => .inl (isBare_touch router sample _ _ _ handled call member)

theorem isBare_key (sample : KeySample) (handled : Bool) :
    ∀ call ∈ (key sample handled).1, call.isBare = true := by
  unfold key
  dsimp only
  repeat' split
  all_goals simp [Call.isBare]

end Router

/-! ## The calls of a task -/

/-- The command request that a task brings. -/
def Task.request? : Task → Option CommandRequest
  | .shell (.runCommandLine commandLine environment) => some (.line commandLine environment)
  | .shell (.runCommandArray arguments environment) => some (.array arguments environment)
  | _ => none

/-- The task re-reads the clip of the host: it is asked to, or the host has another clip. -/
def Task.polls : Task → Bool
  | .manager .pollClipboard | .host (.clipboardChanged _) => true
  | _ => false

namespace Session

variable {session : Session} {task : Task} {call : Call} {calls : List Call}

/-- The task creates a desktop, and nothing is dropped. -/
def startsDesktop (session : Session) : Task → Bool
  | .manager (.createDesktop window scalingCode) =>
    match session.createDesktop window scalingCode with
    | .ok reaction => reaction.notices.isEmpty
    | .error _ => false
  | _ => false

/-- Where the calls of a task come from: plain numbers; the axes of a joystick that moved; the name
of a gamepad; a composed text; the clip of a poll; a request of the task itself or, at the start of a
desktop, behind the gate or of a first run. -/
inductive Stems (session : Session) (task : Task) : Call → Prop where
  | bare {call : Call} (isBare : call.isBare = true) : Stems session task call
  | axes {sample : MotionSample} (moved : task = .host (.motion sample)) :
      Stems session task (.gamepadAxis sample.device (Router.joystickAxes sample.axes))
  | gamepad (index : UInt64) (device : Int32) (descriptor : String) :
      Stems session task (.gamepadData index device (Gamepads.name descriptor))
  | text (text : String) (cursor : Int32) : Stems session task (Composition.setText text cursor)
  | clip (polls : task.polls = true) (own : Option String) (clip : Option Clip) :
      Stems session task (Clipboard.report own clip)
  | request {request : CommandRequest} (asked : task.request? = some request ∨
        session.startsDesktop task = true ∧
          (request ∈ session.gate.waiting ∨ session.prefixDirectory.isSome = true)) :
      Stems session task request.call

theorem mem_of_mem_deliver (delivered : call ∈ session.deliver calls) : call ∈ calls := by
  unfold deliver at delivered
  split at delivered
  · exact delivered
  · cases delivered

theorem stems_enumerate (devices : List InputDevice) :
    ∀ call ∈ Gamepads.enumerate devices, session.Stems task call := by
  intro call member
  unfold Gamepads.enumerate at member
  split at member
  · cases member
  · rcases List.mem_cons.mp member with rfl | described
    · exact .bare rfl
    · obtain ⟨⟨device, index⟩, -, rfl⟩ := List.mem_map.mp described
      exact .gamepad _ device.id device.descriptor

theorem stems_onDesk {before : Session} {event : TreeEvent} {andThen : Session → List Call}
    (more : ∀ after, ∀ call ∈ andThen after, session.Stems task call) :
    ∀ call ∈ sentBy Reaction.calls (before.onDesk event andThen), session.Stems task call := by
  intro call member
  unfold onDesk Desk.apply at member
  cases outcome : before.desk.tree.change before.desk.scene.hasViews event with
  | ok change =>
      rw [outcome] at member
      rcases List.mem_append.mp (mem_of_mem_deliver member) with told | later
      · exact .bare (Call.isBare_of_concernsWindow (Tree.concernsWindow_change outcome call told))
      · exact more _ call later
  | error cause =>
      rw [outcome] at member
      cases cause with
      | refused error => cases member
      | interrupted interruption =>
          exact .bare (Call.isBare_of_concernsWindow (Tree.sendsAboutWindows_change _ _ _
            interruption outcome call (mem_of_mem_deliver member)))

theorem stems_submit {before : Session} {request : CommandRequest}
    (asked : task.request? = some request ∨
      session.startsDesktop task = true ∧ session.prefixDirectory.isSome = true) :
    ∀ call ∈ (before.submit request).2.1, session.Stems task call := by
  intro call member
  rw [Gate.eq_of_mem_submit (mem_of_mem_deliver member)]
  exact .request (asked.imp_right fun start => ⟨start.1, .inr start.2⟩)

theorem stems_submitAll {before : Session} (starts : session.startsDesktop task = true)
    (hasPrefix : session.prefixDirectory.isSome = true)
    (requests : List CommandRequest) :
    ∀ call ∈ (before.submitAll requests).2, session.Stems task call := by
  induction requests generalizing before with
  | nil => exact List.forall_mem_nil _
  | cons request rest inductionHypothesis =>
      intro call member
      rcases List.mem_append.mp member with now | later
      · exact stems_submit (.inr ⟨starts, hasPrefix⟩) call now
      · exact inductionHypothesis call later

theorem stems_firstRun (before : Session) (starts : session.startsDesktop task = true)
    (sameDirectory : before.prefixDirectory = session.prefixDirectory) :
    ∀ call ∈ before.firstRun.2, session.Stems task call := by
  intro call member
  unfold firstRun at member
  split at member
  · cases member
  · next directory found =>
      split at member
      · cases member
      · exact stems_submitAll starts (by rw [← sameDirectory, found]; rfl) _ call member

theorem stems_unlock {before : Session} (starts : session.startsDesktop task = true)
    (sameGate : before.gate = session.gate) :
    ∀ call ∈ before.unlock.2, session.Stems task call := by
  intro call member
  obtain ⟨request, waits, rfl⟩ := Gate.exists_of_mem_unlock (mem_of_mem_deliver member)
  exact .request (.inr ⟨starts, .inl (sameGate ▸ waits)⟩)

/-- A session whose desktop is registered, and whose gate is still to be opened. -/
def scaledBy (prepared : Session) (change : Change) (scale : Binary32) : Session :=
  { prepared with
    desk :=
      { (prepared.desk.carryOut change).1 with tree := { change.tree with dpiScale := scale } } }

/-- What the start of a registered desktop gives. -/
def startedBy (scaled : Session) (dpi : UInt32) : Reaction where
  session := scaled.unlock.1.firstRun.1
  calls := scaled.unlock.1.firstRun.1.deliver [.configChanged dpi] ++ scaled.unlock.2 ++
    scaled.unlock.1.firstRun.2

theorem createDesktop_of_accepted {prepared : Session} {window : WindowId} {scalingCode : UInt32}
    {change : Change} (preparing : session.withMessageWindow = .ok prepared)
    (accepted : prepared.desk.tree.change prepared.desk.scene.hasViews (.createDesktop window) =
      .ok change) :
    session.createDesktop window scalingCode =
      .ok (startedBy
        (prepared.scaledBy change (scaling session.config.display.startupDpi scalingCode).1)
        (scaling session.config.display.startupDpi scalingCode).2) := by
  unfold createDesktop Desk.apply
  rw [preparing]
  simp only [bind, Except.bind, accepted]
  rfl

theorem stems_startedBy {scaled : Session} (starts : session.startsDesktop task = true)
    (dpi : UInt32) (sameGate : scaled.gate = session.gate)
    (sameDirectory : scaled.prefixDirectory = session.prefixDirectory) :
    ∀ call ∈ (startedBy scaled dpi).calls, session.Stems task call := by
  intro call member
  rcases List.mem_append.mp member with opening | firstRun
  · rcases List.mem_append.mp opening with configured | flushed
    · rw [List.mem_singleton.mp (mem_of_mem_deliver configured)]
      exact .bare rfl
    · exact stems_unlock starts sameGate call flushed
  · exact stems_firstRun scaled.unlock.1 starts sameDirectory call firstRun

theorem stems_withMessageWindow :
    ∀ call ∈ sentBy (fun _ => []) session.withMessageWindow, session.Stems task call := by
  unfold withMessageWindow
  split
  · exact List.forall_mem_nil _
  · refine forall_sentBy_bind (fun _ => []) (fun call member => ?_)
      fun _ _ _ => List.forall_mem_nil _
    unfold Desk.step Desk.apply at member
    cases outcome : session.desk.tree.change session.desk.scene.hasViews
        (.create WindowId.messageOnly WindowId.absent Binary32.one false 0) with
    | ok change =>
        rw [outcome] at member
        cases member
    | error cause =>
        rw [outcome] at member
        cases cause with
        | refused error => cases member
        | interrupted interruption =>
            exact .bare (Call.isBare_of_concernsWindow
              (Tree.sendsAboutWindows_change _ _ _ interruption outcome call member))

theorem startsDesktop_of_accepted {prepared : Session} {window : WindowId} {scalingCode : UInt32}
    {change : Change} (preparing : session.withMessageWindow = .ok prepared)
    (accepted : prepared.desk.tree.change prepared.desk.scene.hasViews (.createDesktop window) =
      .ok change) :
    session.startsDesktop (.manager (.createDesktop window scalingCode)) = true := by
  simp only [startsDesktop, createDesktop_of_accepted preparing accepted]
  rfl

/-- A start of a desktop is a task to create it that the windows accept. -/
theorem exists_of_startsDesktop (starts : session.startsDesktop task = true) :
    ∃ window scalingCode prepared change, task = .manager (.createDesktop window scalingCode) ∧
      session.withMessageWindow = .ok prepared ∧
      prepared.desk.tree.change prepared.desk.scene.hasViews (.createDesktop window) =
        .ok change := by
  unfold startsDesktop at starts
  split at starts
  · next window scalingCode =>
      split at starts
      · next reaction created =>
          unfold createDesktop Desk.apply at created
          obtain ⟨prepared, preparing, rest⟩ := bind_eq_ok.mp created
          cases outcome : prepared.desk.tree.change prepared.desk.scene.hasViews
              (.createDesktop window) with
          | ok change => exact ⟨window, scalingCode, prepared, change, rfl, preparing, outcome⟩
          | error cause =>
              rw [outcome] at rest
              cases cause <;> cases rest
              cases starts
      · cases starts
  · cases starts

theorem stems_createDesktop (window : WindowId) (scalingCode : UInt32) :
    ∀ call ∈ sentBy Reaction.calls (session.createDesktop window scalingCode),
      session.Stems (.manager (.createDesktop window scalingCode)) call := by
  cases preparing : session.withMessageWindow with
  | error interruption =>
      intro call member
      have interrupted : session.createDesktop window scalingCode = .error interruption := by
        simp only [createDesktop, preparing, bind, Except.bind]
      rw [interrupted] at member
      exact stems_withMessageWindow call (by rw [preparing]; exact member)
  | ok prepared =>
      obtain ⟨desk, rfl⟩ := exists_desk_of_withMessageWindow preparing
      cases outcome : desk.tree.change desk.scene.hasViews (.createDesktop window) with
      | ok change =>
          rw [createDesktop_of_accepted preparing outcome]
          exact stems_startedBy (startsDesktop_of_accepted preparing outcome) _ rfl rfl
      | error cause =>
          unfold createDesktop Desk.apply
          simp only [preparing, bind, Except.bind, outcome]
          cases cause with
          | refused error => exact List.forall_mem_nil _
          | interrupted interruption =>
              exact fun call member => .bare (Call.isBare_of_concernsWindow
                (Tree.sendsAboutWindows_change _ _ _ interruption outcome call
                  (mem_of_mem_deliver member)))

/-! ### Events -/

theorem stems_manager (session : Session) (event : ManagerEvent) :
    ∀ call ∈ sentBy Reaction.calls (session.dispatch (.manager event)),
      session.Stems (.manager event) call := by
  cases event with
  | createDesktop window scalingCode => exact stems_createDesktop window scalingCode
  | setFocus window =>
      simp only [dispatch, onManager]
      refine stems_onDesk fun after => ?_
      split
      · exact stems_enumerate _
      · exact List.forall_mem_nil _
  | setIcon window width height pixels =>
      simp only [dispatch, onManager]
      split
      · exact stems_onDesk fun _ => List.forall_mem_nil _
      · split
        · exact stems_onDesk fun _ => List.forall_mem_nil _
        · exact List.forall_mem_nil _
  | setCursor request =>
      simp only [dispatch, onManager]
      split <;> exact List.forall_mem_nil _
  | closeWindow window =>
      intro call member
      have closing := mem_of_mem_deliver member
      split at closing
      · cases closing
      · rw [List.mem_singleton.mp closing]
        exact .bare rfl
  | pollClipboard =>
      intro call member
      rw [List.mem_singleton.mp (mem_of_mem_deliver member)]
      exact .clip rfl _ _
  | setClipboard text => exact List.forall_mem_nil _
  | createWindow | destroyWindow | setParent | setPosition | setText =>
      simp only [dispatch, onManager]
      exact stems_onDesk fun _ => List.forall_mem_nil _

theorem stems_commit (text : String) (cursor : Int32) (keys : Option (List KeySample)) :
    ∀ call ∈ Composition.commitCalls text cursor keys, session.Stems task call := by
  intro call member
  unfold Composition.commitCalls at member
  split at member
  · rcases List.mem_cons.mp member with rfl | typed
    · exact .bare rfl
    · obtain ⟨sample, -, pressed⟩ := List.mem_flatMap.mp typed
      exact .bare (Router.isBare_key sample true call pressed)
  · simp only [List.mem_cons, List.not_mem_nil, or_false] at member
    rcases member with rfl | rfl | rfl
    · exact .bare rfl
    · exact .text text cursor
    · exact .bare rfl

theorem stems_host (session : Session) (event : HostEvent) :
    ∀ call ∈ sentBy Reaction.calls (session.dispatch (.host event)),
      session.Stems (.host event) call := by
  cases event with
  | motion sample =>
      have routed := session.router.calls_motion session.tree sample session.callsOpen
      have stems : ∀ call, call.isBare = true ∨
          call = .gamepadAxis sample.device (Router.joystickAxes sample.axes) →
            session.Stems (.host (.motion sample)) call := by
        rintro call (isBare | rfl)
        · exact .bare isBare
        · exact .axes rfl
      intro call member
      simp only [dispatch, onHost] at member
      cases outcome : session.router.motion session.tree sample session.callsOpen with
      | ok result =>
          rw [outcome] at member routed
          exact stems call (routed call (mem_of_mem_deliver member))
      | error interruption =>
          rw [outcome] at member routed
          exact stems call (routed call (mem_of_mem_deliver member))
  | key sample =>
      exact fun call member => .bare (Router.isBare_key sample _ call (mem_of_mem_deliver member))
  | imeCompose text cursor =>
      intro call member
      have composing := mem_of_mem_deliver member
      simp only [Composition.composeCalls, List.mem_cons, List.not_mem_nil, or_false] at composing
      rcases composing with rfl | rfl
      · exact .bare rfl
      · exact .text text cursor
  | imeCommit text cursor keys =>
      exact fun call member => stems_commit text cursor keys call (mem_of_mem_deliver member)
  | clipboardChanged clip =>
      intro call member
      rw [List.mem_singleton.mp (mem_of_mem_deliver member)]
      exact .clip rfl _ _
  | deviceAdded => exact List.forall_mem_nil _
  | desktopResized | imeFinish | clearMetaKeyStates =>
      intro call member
      rw [List.mem_singleton.mp (mem_of_mem_deliver member)]
      exact .bare rfl
  | surfaceAvailable | surfaceDestroyed | viewVisibility | activityStarted | activityStopped =>
      simp only [dispatch, onHost]
      exact stems_onDesk fun _ => List.forall_mem_nil _

/-- Every call of a task, whether it is done or interrupted, has one of the sources. -/
theorem stems_dispatch (session : Session) (task : Task) :
    ∀ call ∈ sentBy Reaction.calls (session.dispatch task), session.Stems task call := by
  cases task with
  | manager event => exact stems_manager session event
  | host event => exact stems_host session event
  | shell command =>
      cases command with
      | closeDesktop => exact List.forall_mem_nil _
      | runCommandLine | runCommandArray => exact stems_submit (.inl rfl)
  | shutdown => exact List.forall_mem_nil _

end Session

end WindowRelay
