import WindowRelay.Proofs.Session.Agreement

/-!
Contract: what becomes of a request for a desktop.

Owns:
- the message-only window that such a request brings: a child of nobody, with views that are
  attached nowhere;
- the outcome of every request: a desktop is started, or the request is dropped;
- the one trace that a dropped request leaves.

The message-only window comes before the desktop window is checked, and it stays when the request is
dropped. So a dropped request changes nothing exactly if that window was there already.
-/

namespace WindowRelay

namespace Tree

variable {tree : Tree} {hosted : WindowId → Bool}

/-- The message-only window as a request for a desktop brings it. -/
abbrev messageWindow : Node :=
  newNode WindowId.messageOnly .child Binary32.one 0 none

/-- The views of the message-only window, for a parentless window of no extent. -/
def messageCommands : List Scene.Command :=
  [.createViews WindowId.messageOnly, .layout WindowId.messageOnly .client ⟨0, 0, 2, 2⟩]

theorem ensureViews_messageWindow (tree : Tree) (notHosted : hosted WindowId.messageOnly = false) :
    (tree.addNode messageWindow).ensureViews hosted WindowId.messageOnly = .ok messageCommands := by
  have found : (tree.addNode messageWindow).node? WindowId.messageOnly = some messageWindow := by
    rw [node?_addNode, if_pos rfl]
  have parentless : (tree.addNode messageWindow).parent? WindowId.messageOnly = none :=
    parent?_of_node? found
  have alone : (tree.addNode messageWindow).ancestors WindowId.messageOnly = [] := by
    unfold ancestors
    cases (tree.addNode messageWindow).size with
    | zero => rfl
    | succ steps => rw [ancestorsWithin, parentless]
  have missing : (tree.addNode messageWindow).missingViews hosted WindowId.messageOnly =
      [WindowId.messageOnly] := by
    simp [missingViews, alone, notHosted]
  have own : (tree.addNode messageWindow).viewsOf WindowId.messageOnly = .ok messageCommands := by
    rw [viewsOf, found]
    rfl
  rw [ensureViews, missing]
  exact viewsOfAll_cons.mpr ⟨messageCommands, [], own, rfl, rfl⟩

theorem create_messageWindow (dead : ¬ tree.isLive WindowId.messageOnly = true)
    (notHosted : hosted WindowId.messageOnly = false) :
    tree.create hosted WindowId.messageOnly WindowId.absent Binary32.one false 0 =
      .ok { tree := tree.addNode messageWindow, commands := messageCommands } := by
  have reserved : ¬ WindowId.messageOnly = WindowId.absent := by decide
  have child : tree.createChild hosted WindowId.messageOnly none Binary32.one 0 =
      .ok { tree := tree.addNode messageWindow, commands := messageCommands } :=
    bind_eq_ok.mpr ⟨tree, rfl, bind_eq_ok.mpr
      ⟨messageCommands, liftOverflow_eq_ok.mpr (ensureViews_messageWindow tree notHosted), rfl⟩⟩
  rw [create, if_neg reserved, if_neg dead]
  exact bind_eq_ok.mpr ⟨_, child, rfl⟩

end Tree

namespace Session

variable {config : Config} {directory : Option PrefixDirectory} {session : Session}
  {window : WindowId} {reaction : Reaction}

/-! ## The session in which the desktop window is checked -/

/-- The session with a message-only window of its own, which belongs to nobody and is shown
nowhere. -/
def withDetachedWindow (session : Session) : Session :=
  { session with
    desk :=
      { tree := session.tree.addNode Tree.messageWindow
        scene := session.scene.performAll Tree.messageCommands } }

/-- The session behind the first half of a request for a desktop. -/
def prepared (session : Session) : Session :=
  if session.tree.isLive WindowId.messageOnly then session else session.withDetachedWindow

theorem Agrees.withMessageWindow_eq (agrees : session.Agrees) :
    session.withMessageWindow = .ok session.prepared := by
  unfold withMessageWindow Session.prepared
  by_cases live : session.tree.isLive WindowId.messageOnly = true
  · rw [if_pos live, if_pos live]
  · have created := Tree.create_messageWindow live (agrees.shows.hosting.not_hosted live)
    have accepted : session.desk.tree.change session.desk.scene.hasViews
        (.create WindowId.messageOnly WindowId.absent Binary32.one false 0) = _ := created
    rw [if_neg live, if_neg live, Desk.step, Desk.apply, accepted]
    rfl

theorem isLive_withDetachedWindow (session : Session) (window : WindowId) :
    session.withDetachedWindow.tree.isLive window =
      (session.tree.isLive window || window == WindowId.messageOnly) := by
  have kinds : session.withDetachedWindow.tree.kind? window =
      if window = WindowId.messageOnly then some .child else session.tree.kind? window :=
    Tree.kind?_addNode session.tree window Tree.messageWindow
  rw [Tree.isLive_eq_kind?, kinds, Tree.isLive_eq_kind?]
  by_cases isMessage : window = WindowId.messageOnly <;> simp [isMessage]

theorem isLive_prepared (session : Session) (window : WindowId) :
    session.prepared.tree.isLive window =
      (session.tree.isLive window || window == WindowId.messageOnly) := by
  unfold Session.prepared
  split
  · next live =>
      by_cases isMessage : window = WindowId.messageOnly
      · simp [isMessage, live]
      · simp [isMessage]
  · exact isLive_withDetachedWindow session window

theorem desktop_prepared (session : Session) :
    session.prepared.tree.desktop = session.tree.desktop := by
  unfold Session.prepared
  split <;> rfl

/-- The first half of a request leaves no trace exactly if the message-only window is there. -/
theorem prepared_eq_self_iff :
    session.prepared = session ↔ session.tree.isLive WindowId.messageOnly = true := by
  constructor
  · intro same
    have live := isLive_prepared session WindowId.messageOnly
    rwa [same, beq_self_eq_true, Bool.or_true] at live
  · exact fun live => if_pos live

/-! ## The outcome -/

/-- Why a request for a desktop is dropped, if it is. -/
def desktopRefusal (session : Session) (window : WindowId) : Option WindowError :=
  if session.tree.desktop.isSome then some .desktopAlreadyCreated
  else if session.tree.isLive window || window == WindowId.messageOnly then
    some (.alreadyExists window)
  else none

theorem desktopRefusal_eq_none_iff :
    session.desktopRefusal window = none ↔ session.tree.desktop = none ∧
      ¬ session.tree.isLive window = true ∧ window ≠ WindowId.messageOnly := by
  unfold desktopRefusal
  cases session.tree.desktop with
  | some desktop => simp
  | none => cases session.tree.isLive window <;> simp

theorem createDesktop_prepared (session : Session) (window : WindowId) :
    session.prepared.tree.createDesktop window =
      match session.desktopRefusal window with
      | some error => .error (.refused error)
      | none => .ok
          { tree :=
              { session.prepared.tree.addNode { id := window, kind := .desktop } with
                desktop := some window } } := by
  unfold Tree.createDesktop desktopRefusal
  rw [desktop_prepared, isLive_prepared]
  split
  · rfl
  · split <;> rfl

/-- A desktop is started: it is registered beside a live message-only window, the scale and the
configuration that go with its scaling are set and sent, and the gate is open. -/
structure DesktopStarted (session : Session) (window : WindowId) (scalingCode : UInt32)
    (reaction : Reaction) : Prop where
  running : reaction.running = true
  notices : reaction.notices = []
  messageWindow : reaction.session.tree.isLive WindowId.messageOnly = true
  desktop : reaction.session.tree.desktop = some window
  kind : reaction.session.tree.kind? window = some .desktop
  scale : reaction.session.tree.dpiScale =
    (scaling session.config.display.startupDpi scalingCode).1
  gate : reaction.session.gate = session.gate.unlock.1 ∧ reaction.session.gate.ready = true
  calls : reaction.calls = session.deliver
    (.configChanged (scaling session.config.display.startupDpi scalingCode).2 ::
      (session.gate.unlock.2 ++ session.firstRunCalls))

/-- A request is dropped: nothing is sent, and nothing changes but that a message-only window comes
where there was none. -/
structure DesktopDropped (session : Session) (error : WindowError) (reaction : Reaction) :
    Prop where
  running : reaction.running = true
  notices : reaction.notices = [.dropped error]
  calls : reaction.calls = []
  beside : session.tree.isLive WindowId.messageOnly = true → reaction.session = session
  behind : ¬ session.tree.isLive WindowId.messageOnly = true →
    reaction.session = session.withDetachedWindow ∧ reaction.session ≠ session

theorem DesktopDropped.desktop {error : WindowError}
    (dropped : session.DesktopDropped error reaction) :
    reaction.session.tree.desktop = session.tree.desktop := by
  by_cases live : session.tree.isLive WindowId.messageOnly = true
  · rw [dropped.beside live]
  · rw [(dropped.behind live).1]
    rfl

theorem Agrees.desktopStarted (agrees : session.Agrees)
    (granted : session.desktopRefusal window = none) (scalingCode : UInt32) :
    ∃ reaction, session.createDesktop window scalingCode = .ok reaction ∧
      session.DesktopStarted window scalingCode reaction := by
  have preparing := agrees.withMessageWindow_eq
  have messageLive := isLive_prepared session WindowId.messageOnly
  have accepted := createDesktop_prepared session window
  rw [granted] at accepted
  rw [beq_self_eq_true, Bool.or_true] at messageLive
  obtain ⟨desk, same⟩ := exists_desk_of_withMessageWindow preparing
  rw [same] at preparing messageLive accepted
  have created : session.createDesktop window scalingCode = _ :=
    createDesktop_of_accepted preparing accepted
  rw [startedBy_eq] at created
  let desktopWindow : Node := { id := window, kind := .desktop }
  have kinds : ∀ other, (desk.tree.addNode desktopWindow).kind? other =
      if other = window then some .desktop else desk.tree.kind? other :=
    fun other => Tree.kind?_addNode desk.tree other desktopWindow
  have stillLive : (desk.tree.addNode desktopWindow).isLive WindowId.messageOnly = true := by
    rw [Tree.isLive_eq_kind?, kinds]
    split
    · rfl
    · exact (Tree.isLive_eq_kind? _ _).symm.trans messageLive
  exact ⟨_, created,
    { running := rfl
      notices := rfl
      messageWindow := stillLive
      desktop := rfl
      kind := (kinds window).trans (if_pos rfl)
      scale := rfl
      gate := ⟨rfl, Gate.ready_unlock _⟩
      calls := rfl }⟩

theorem Agrees.desktopDropped (agrees : session.Agrees) {error : WindowError}
    (refused : session.desktopRefusal window = some error) (scalingCode : UInt32) :
    ∃ reaction, session.createDesktop window scalingCode = .ok reaction ∧
      session.DesktopDropped error reaction := by
  have rejected := createDesktop_prepared session window
  rw [refused] at rejected
  have applied : session.prepared.desk.apply (.createDesktop window) = .error (.refused error) :=
    congrArg (Except.map session.prepared.desk.carryOut) rejected
  have created : session.createDesktop window scalingCode =
      .ok (session.prepared.dropping error) := by
    refine bind_eq_ok.mpr ⟨_, agrees.withMessageWindow_eq, ?_⟩
    rw [applied]
    rfl
  exact ⟨_, created,
    { running := rfl
      notices := rfl
      calls := rfl
      beside := prepared_eq_self_iff.mpr
      behind := fun dead => ⟨if_neg dead, fun same => dead (prepared_eq_self_iff.mp same)⟩ }⟩

/-- A request for a desktop is never interrupted. It starts a desktop if there is none, no window
has the identifier, and it is not that of the message-only window; otherwise it is dropped. A
dropped request leaves the session as it was if the message-only window is live, and else it leaves
one behind. -/
theorem desktop_started_or_dropped (reachable : Reachable config directory session)
    (window : WindowId) (scalingCode : UInt32) :
    ∃ reaction,
      session.dispatch (.manager (.createDesktop window scalingCode)) = .ok reaction ∧
      match session.desktopRefusal window with
      | none => session.DesktopStarted window scalingCode reaction
      | some error => session.DesktopDropped error reaction := by
  cases refusal : session.desktopRefusal window with
  | none => exact reachable.agrees.desktopStarted refusal scalingCode
  | some error => exact reachable.agrees.desktopDropped refusal scalingCode

/-- One top-level window comes, and no message-only window. -/
def plainRun : List Task :=
  [.manager (.createWindow 48 false WindowId.absent Binary32.one 7)]

theorem desktop_started_or_dropped_after_plainRun :
    ∃ session started dropped, (fresh {} none).dispatchAll plainRun = .ok session ∧
      session.dispatch (.manager (.createDesktop 32 1)) = .ok started ∧
      session.DesktopStarted 32 1 started ∧
      session.dispatch (.manager (.createDesktop 48 0)) = .ok dropped ∧
      session.DesktopDropped (.alreadyExists 48) dropped := by
  have ends : ((fresh {} none).dispatchAll plainRun).map (fun last =>
      (last.desktopRefusal 32, last.desktopRefusal 48)) =
      .ok (none, some (.alreadyExists 48)) := by
    decide +kernel
  obtain ⟨session, ran, refusals⟩ := map_eq_ok.mp ends
  obtain ⟨granted, refused⟩ := Prod.mk.inj refusals
  have reachable : Reachable {} none session := Reachable.fresh.dispatchAll ran
  obtain ⟨started, dispatched, starts⟩ := desktop_started_or_dropped reachable 32 1
  obtain ⟨dropped, dispatchedToo, drops⟩ := desktop_started_or_dropped reachable 48 0
  rw [granted] at starts
  rw [refused] at drops
  exact ⟨session, started, dropped, ran, dispatched, starts, dispatchedToo, drops⟩

/-- The identifier of the desktop belongs to a window already, so the request is dropped, and the
message-only window stays. -/
theorem dropped_desktop_leaves_message_window :
    ∃ session reaction, (fresh {} none).dispatchAll plainRun = .ok session ∧
      session.dispatch (.manager (.createDesktop 48 0)) = .ok reaction ∧
      reaction.notices = [.dropped (.alreadyExists 48)] ∧
      session.tree.isLive WindowId.messageOnly = false ∧
      reaction.session.tree.isLive WindowId.messageOnly = true ∧
      reaction.session.scene.hasViews WindowId.messageOnly = true := by
  have ends : ((fresh {} none).dispatchAll plainRun >>= fun session =>
      (session.dispatch (.manager (.createDesktop 48 0))).map fun reaction =>
        (reaction.notices, session.tree.isLive WindowId.messageOnly,
          reaction.session.tree.isLive WindowId.messageOnly,
          reaction.session.scene.hasViews WindowId.messageOnly)) =
      .ok ([.dropped (.alreadyExists 48)], false, true, true) := by
    decide +kernel
  obtain ⟨session, ran, rest⟩ := bind_eq_ok.mp ends
  obtain ⟨reaction, dispatched, facts⟩ := map_eq_ok.mp rest
  simp only [Prod.mk.injEq] at facts
  exact ⟨session, reaction, ran, dispatched, facts⟩

end Session

end WindowRelay
