import WindowRelay.Session.Basic

/-!
Contract: the effect of each task on a session.

Owns:
- the start of a desktop: scaling, opening of the gate, first-run commands;
- the effect of the events of the window manager and of the host, and of shell commands.

An event that is refused is dropped with a log line, and the session goes on.
-/

namespace WindowRelay

namespace Session

/-- A reaction that sends calls. -/
def sending (session : Session) (calls : List Call) : Reaction :=
  { session, calls := session.deliver calls }

/-- A reaction that drops an event. -/
def dropping (session : Session) (error : WindowError) : Reaction :=
  { session, notices := [.dropped error] }

/-- An interruption of the session, as far as somebody receives its calls. -/
def interrupting (session : Session) (interruption : Interruption) : Interruption :=
  { interruption with sent := session.deliver interruption.sent }

/-- Apply an event about windows, and go on with the session afterwards. -/
def onDesk (session : Session) (event : TreeEvent)
    (andThen : Session → List Call := fun _ => []) : Except Interruption Reaction :=
  match session.desk.apply event with
  | .ok (desk, output) =>
    let after := { session with desk }
    .ok
      { session := after
        calls := after.deliver (output.calls ++ andThen after)
        notices := output.notices }
  | .error (.refused error) => .ok (session.dropping error)
  | .error (.interrupted interruption) => .error (session.interrupting interruption)

/-! ## The start of a desktop -/

/-- The scale of a desktop and the density that is reported, by its scaling: zero reports the
density of the host, one scales by it, any other number is the density to scale to. -/
def scaling (startupDpi scaling : UInt32) : Binary32 × UInt32 :=
  let standard : Binary32 := Binary32.ofNat 96
  if scaling = 0 then (Binary32.one, startupDpi)
  else if scaling = 1 then ((Binary32.ofNat startupDpi.toNat).div standard, 96)
  else ((Binary32.ofNat scaling.toNat).div standard, 96)

/-- Submit requests one after the other. -/
def submitAll (session : Session) : List CommandRequest → Session × List Call
  | [] => (session, [])
  | request :: rest =>
    let (next, calls, _) := session.submit request
    let (last, later) := next.submitAll rest
    (last, calls ++ later)

/-- Run the first-run commands in a prefix directory without marker, and leave the marker. -/
def firstRun (session : Session) : Session × List Call :=
  match session.prefixDirectory with
  | none => (session, [])
  | some directory =>
    if directory.marked then (session, [])
    else
      let requests := session.config.startup.firstRunCommands.map fun arguments =>
        CommandRequest.array arguments none
      let (after, calls) := session.submitAll requests
      let left := { directory with marked := directory.writable }
      ({ after with prefixDirectory := some left }, calls)

/-- Open the gate. -/
def unlock (session : Session) : Session × List Call :=
  let (gate, calls) := session.gate.unlock
  ({ session with gate }, session.deliver calls)

/-- The message-only window exists as soon as a desktop is asked for. -/
def withMessageWindow (session : Session) : Except Interruption Session :=
  if session.tree.isLive WindowId.messageOnly then .ok session
  else do
    let (desk, _) ← session.desk.step
      (.create WindowId.messageOnly WindowId.absent Binary32.one false 0)
    pure { session with desk }

def createDesktop (session : Session) (window : WindowId) (scalingCode : UInt32) :
    Except Interruption Reaction := do
  let prepared ← session.withMessageWindow
  match prepared.desk.apply (.createDesktop window) with
  | .error (.refused error) => pure (prepared.dropping error)
  | .error (.interrupted interruption) => throw (prepared.interrupting interruption)
  | .ok (desk, _) =>
    let (scale, dpi) := scaling session.config.display.startupDpi scalingCode
    let scaled :=
      { prepared with desk := { desk with tree := { desk.tree with dpiScale := scale } } }
    let (opened, flushed) := scaled.unlock
    let (started, firstRunCalls) := opened.firstRun
    pure
      { session := started
        calls := started.deliver [.configChanged dpi] ++ flushed ++ firstRunCalls }

/-! ## Events -/

/-- Re-read the clip of the host, report it and keep it as the snapshot. -/
def pollClipboard (session : Session) : Reaction :=
  let clip := session.scene.clip
  { session with snapshot := clip }.sending [Clipboard.report session.ownUri clip]

def onManager (session : Session) : ManagerEvent → Except Interruption Reaction
  | .createDesktop window scalingCode => session.createDesktop window scalingCode
  | .createWindow window accelerated parent scale process =>
    session.onDesk (.create window parent scale accelerated process)
  | .destroyWindow window =>
    { session with router := session.router.forget window }.onDesk (.destroy window)
  | .setParent window parent scale _ => session.onDesk (.reparent window parent scale)
  | .setPosition window flags insertAfter owner style windowRect clientRect visibleRect =>
    session.onDesk (.position window
      { flags := PositionFlags.ofRaw flags, insertAfter, owner, style := Style.ofRaw style,
        windowRect, clientRect, visibleRect })
  | .setFocus window =>
    session.onDesk (.focus window) fun after =>
      if after.tree.holds Node.isTopLevel window then Gamepads.enumerate after.scene.devices else []
  | .setText window text => session.onDesk (.setText window text)
  | .setIcon window width height pixels =>
    match pixels with
    | none => session.onDesk (.setIcon window none)
    | some pixels =>
      match Icon.forWindow window width height pixels with
      | .ok icon => session.onDesk (.setIcon window (some icon))
      | .error error => .ok (session.dropping error)
  | .setCursor request =>
    match request.admit with
    | .ok cursor =>
      .ok { session := session.withScene { session.scene with cursor := some cursor } }
    | .error error => .ok (session.dropping error)
  | .closeWindow window =>
    .ok (session.sending (if window = WindowId.absent then [] else [.windowClose window]))
  | .pollClipboard => .ok session.pollClipboard
  | .setClipboard text =>
    .ok { session := session.withScene
            { session.scene with clip := some (Clipboard.publish session.ownUri text) } }

def onShell (session : Session) : ShellCommand → Reaction
  | .runCommandLine commandLine environment =>
    let (after, calls, _) := session.submit (.line commandLine environment)
    { session := after, calls }
  | .runCommandArray arguments environment =>
    let (after, calls, _) := session.submit (.array arguments environment)
    { session := after, calls }
  | .closeDesktop =>
    { session := session.withScene { session.scene with finished := true }, running := false }

/-- An extent in host pixels as an extent in units of the window manager. -/
def unscaled (extent : Int32) (scale : Binary32) : Int32 :=
  ((Binary32.ofInt extent.toInt).div scale).truncateToCoordinate

def onHost (session : Session) : HostEvent → Except Interruption Reaction
  | .surfaceAvailable window client surface =>
    session.onDesk (.surfaceAvailable window (Surface.Kind.ofClientFlag client) surface)
  | .surfaceDestroyed window client =>
    session.onDesk (.surfaceDestroyed window (Surface.Kind.ofClientFlag client))
  | .viewVisibility window client visible =>
    session.onDesk (.viewVisibility window (Surface.Kind.ofClientFlag client) visible)
  | .desktopResized width height =>
    let scale := session.tree.dpiScale
    let resized := session.withScene { session.scene with desktopSize := (width, height) }
    .ok (resized.sending [.desktopChanged (unscaled width scale) (unscaled height scale)])
  | .motion sample => do
    let routed ←
      (session.router.motion session.tree sample session.callsOpen).mapError session.interrupting
    pure ({ session with router := routed.router }.sending routed.calls)
  | .key sample => .ok (session.sending (Router.key sample session.callsOpen).1)
  | .imeCompose text cursor =>
    .ok ({ session with composing := true }.sending (Composition.composeCalls text cursor))
  | .imeCommit text cursor keys =>
    .ok ({ session with composing := false }.sending (Composition.commitCalls text cursor keys))
  | .imeFinish => .ok ({ session with composing := false }.sending [.imeFinish])
  | .clearMetaKeyStates states => .ok (session.sending [.clearMetaKeyStates states])
  | .activityStarted => session.onDesk .activityStarted
  | .activityStopped => session.onDesk .activityStopped
  | .deviceAdded device source descriptor =>
    .ok { session := session.withScene (session.scene.addDevice ⟨device, ⟨source⟩, descriptor⟩) }
  | .clipboardChanged clip =>
    .ok (session.withScene { session.scene with clip }).pollClipboard

/-- Apply one task. The session ends with a shutdown or once the desktop is closed. -/
def dispatch (session : Session) : Task → Except Interruption Reaction
  | .manager event => session.onManager event
  | .shell command => .ok (session.onShell command)
  | .host event => session.onHost event
  | .shutdown => .ok { session, running := false }

end Session

end WindowRelay
