import WindowRelay.Proofs.Session.Calls
import WindowRelay.Session.Relay

/-!
Contract: routing against direct dispatch, under every schedule.

Owns:
- tasks that bring no request act alike whatever the gate holds;
- a run of tasks, taken apart into its tasks without requests and its operations on the gate;
- serving messages on a schedule, and the order in which their tasks are dispatched then;
- every schedule ends like the direct dispatch.

Requests overtake tasks that wait in the queue, and with them the opening of the gate. Both orders
have the same tasks without requests in the same order, and the same requests in the same order; the
gate is opened in both or in neither.
-/

namespace WindowRelay

/-- A call that runs a command. -/
def Call.isCommand : Call → Bool
  | .runCommandLine .. | .runCommandArray .. => true
  | _ => false

theorem CommandRequest.isCommand_call (request : CommandRequest) :
    request.call.isCommand = true := by
  cases request <;> rfl

/-- A task after which the session goes on. -/
def Task.goesOn : Task → Bool
  | .shell .closeDesktop | .shutdown => false
  | _ => true

namespace Gate

theorem isCommand_perform (gate : Gate) (operation : Operation) :
    ∀ call ∈ (gate.perform operation).2.1, call.isCommand = true := by
  intro call member
  cases operation with
  | submit request =>
      rw [eq_of_mem_submit member]
      exact request.isCommand_call
  | unlock =>
      obtain ⟨request, -, rfl⟩ := exists_of_mem_unlock member
      exact request.isCommand_call

theorem isCommand_performAll (gate : Gate) (operations : List Operation) :
    ∀ call ∈ (gate.performAll operations).2, call.isCommand = true := by
  induction operations generalizing gate with
  | nil => exact fun _ => nofun
  | cons operation rest inductionHypothesis =>
      intro call member
      rcases List.mem_append.mp member with now | later
      · exact isCommand_perform gate operation call now
      · exact inductionHypothesis _ call later

end Gate

namespace Session

variable {session last after : Session} {task : Task} {tasks rest : List Task}
  {reaction : Reaction} {calls own : List Call} {operations : List Gate.Operation}

theorem deliver_append (session : Session) (first second : List Call) :
    session.deliver (first ++ second) = session.deliver first ++ session.deliver second := by
  unfold deliver
  split <;> simp

theorem deliver_congr {other : Session} (same : other.callsOpen = session.callsOpen)
    (calls : List Call) : other.deliver calls = session.deliver calls := by
  simp only [deliver, same]

/-- What is delivered of some calls that all run commands. -/
theorem deliver_filter (session : Session) (commands : ∀ call ∈ calls, call.isCommand = true) :
    (session.deliver calls).filter (·.isCommand) = session.deliver calls ∧
      (session.deliver calls).filter (!·.isCommand) = [] := by
  unfold deliver
  split
  · refine ⟨List.filter_eq_self.mpr commands, List.filter_eq_nil_iff.mpr fun call member => ?_⟩
    simp [commands call member]
  · exact ⟨rfl, rfl⟩

/-! ## Tasks without requests -/

/-- A task that brings no request acts alike whatever the gate holds: it may open the gate, and
sends calls of its own in front of those that the gate lets through. -/
structure Acts (session : Session) (task : Task) (after : Session) (own : List Call)
    (operations : List Gate.Operation) : Prop where
  noRequest : Gate.accepted operations = []
  directory : after.prefixDirectory = none
  callsOpen : after.callsOpen = session.callsOpen
  dispatched : ∀ gate, ∃ notices, { session with gate }.dispatch task = .ok
    { session := { after with gate := (gate.performAll operations).1 }
      calls := own ++ session.deliver (gate.performAll operations).2
      notices }

/-- A reaction that comes whatever the gate holds, and leaves configuration, gate, directory and
channel alone: so does all work but that on a request and on the start of a desktop. -/
structure Blind (session : Session) (work : Session → Except Interruption Reaction)
    (reaction : Reaction) : Prop where
  running : reaction.running = true
  config : reaction.session.config = session.config
  directory : reaction.session.prefixDirectory = session.prefixDirectory
  callsOpen : reaction.session.callsOpen = session.callsOpen
  same : ∀ gate, work { session with gate } =
    .ok { reaction with session := { reaction.session with gate } }

theorem Blind.acts (blind : session.Blind (·.dispatch task) reaction)
    (noPrefix : session.prefixDirectory = none) :
    session.Acts task reaction.session reaction.calls [] where
  noRequest := rfl
  directory := blind.directory.trans noPrefix
  callsOpen := blind.callsOpen
  dispatched gate := by
    refine ⟨reaction.notices, (blind.same gate).trans ?_⟩
    simp [Gate.performAll, deliver, blind.running]

/-- Work that is not interrupted and does not look at the gate. -/
theorem blind_of_always {work : Session → Except Interruption Reaction} {react : Session → Reaction}
    (always : ∀ session, work session = .ok (react session)) (done : work session = .ok reaction)
    (blind : session.Blind (fun session => .ok (react session)) (react session) := by
      exact ⟨rfl, rfl, rfl, rfl, fun _ => rfl⟩) : session.Blind work reaction := by
  obtain rfl : react session = reaction := Except.ok.inj ((always session).symm.trans done)
  exact ⟨blind.running, blind.config, blind.directory, blind.callsOpen,
    fun gate => (always _).trans (blind.same gate)⟩

theorem blind_onDesk {event : TreeEvent} {andThen : Session → List Call}
    (applied : session.onDesk event andThen = .ok reaction)
    (alike : ∀ after gate, andThen { after with gate } = andThen after := by exact fun _ _ => rfl) :
    session.Blind (·.onDesk event andThen) reaction := by
  unfold onDesk Desk.apply at *
  cases outcome : session.desk.tree.change session.desk.scene.hasViews event with
  | ok change =>
      simp only [outcome, Except.map] at applied ⊢
      cases applied
      refine ⟨rfl, rfl, rfl, rfl, fun gate => ?_⟩
      have more : andThen { session with gate, desk := (session.desk.carryOut change).1 } =
          andThen { session with desk := (session.desk.carryOut change).1 } :=
        alike { session with desk := (session.desk.carryOut change).1 } gate
      simp only [outcome, more]
      rfl
  | error cause =>
      simp only [outcome, Except.map] at applied ⊢
      cases cause with
      | refused error =>
          cases applied
          refine ⟨rfl, rfl, rfl, rfl, fun gate => ?_⟩
          simp only [outcome]
          rfl
      | interrupted interruption => cases applied

/-! ### The start of a desktop -/

theorem withMessageWindow_withGate {prepared : Session}
    (preparing : session.withMessageWindow = .ok prepared) (gate : Gate) :
    { session with gate }.withMessageWindow = .ok { prepared with gate } := by
  unfold withMessageWindow at preparing ⊢
  split at preparing
  · next isLive =>
      cases preparing
      exact if_pos isLive
  · next notLive =>
      obtain ⟨⟨desk, output⟩, stepped, rest⟩ := bind_eq_ok.mp preparing
      cases rest
      refine (if_neg notLive).trans (bind_eq_ok.mpr ⟨_, stepped, rfl⟩)

/-- Without a prefix directory, the start of a desktop opens the gate and does no more. -/
theorem startedBy_of_noPrefix (scaled : Session) (noPrefix : scaled.prefixDirectory = none)
    (dpi : UInt32) :
    startedBy scaled dpi =
      { session := { scaled with gate := scaled.gate.unlock.1 }
        calls := scaled.deliver [.configChanged dpi] ++ scaled.deliver scaled.gate.unlock.2 } := by
  have nothing : scaled.unlock.1.firstRun = (scaled.unlock.1, []) := by
    have same : scaled.unlock.1.prefixDirectory = none := noPrefix
    unfold firstRun
    rw [same]
  unfold startedBy
  rw [nothing, List.append_nil]
  rfl

/-- The start of a desktop opens the gate. -/
theorem acts_of_startsDesktop (noPrefix : session.prefixDirectory = none)
    (starts : session.startsDesktop task = true)
    (dispatched : session.dispatch task = .ok reaction) :
    ∃ own operations, session.Acts task reaction.session own operations := by
  obtain ⟨window, scalingCode, prepared, change, rfl, preparing, accepted⟩ :=
    exists_of_startsDesktop starts
  have preparingToo := withMessageWindow_withGate preparing
  obtain ⟨desk, rfl⟩ := exists_desk_of_withMessageWindow preparing
  let scaled := scaledBy { session with desk } change
    (scaling session.config.display.startupDpi scalingCode).1
  let dpi := (scaling session.config.display.startupDpi scalingCode).2
  have scaledNoPrefix : scaled.prefixDirectory = none := noPrefix
  have created : session.dispatch (.manager (.createDesktop window scalingCode)) =
      .ok (startedBy scaled dpi) := createDesktop_of_accepted preparing accepted
  rw [startedBy_of_noPrefix scaled scaledNoPrefix, dispatched] at created
  cases created
  refine ⟨scaled.deliver [.configChanged dpi], [.unlock], rfl, scaledNoPrefix, rfl,
    fun gate => ⟨[], ?_⟩⟩
  have begun := congrArg (Except.ok (ε := Interruption))
    (startedBy_of_noPrefix { scaled with gate } scaledNoPrefix dpi)
  refine (createDesktop_of_accepted (preparingToo gate) accepted).trans (begun.trans ?_)
  have flushed : (gate.performAll [.unlock]).2 = gate.unlock.2 := List.append_nil _
  rw [flushed]
  rfl

/-- The refusal of a desktop. -/
theorem blind_createDesktop {window : WindowId} {scalingCode : UInt32}
    (noStart : session.startsDesktop (.manager (.createDesktop window scalingCode)) = false)
    (created : session.createDesktop window scalingCode = .ok reaction) :
    session.Blind (·.dispatch (.manager (.createDesktop window scalingCode))) reaction := by
  obtain ⟨prepared, preparing, -⟩ := createDesktop_eq_ok created
  have preparingToo := withMessageWindow_withGate preparing
  cases outcome : prepared.desk.tree.change prepared.desk.scene.hasViews
      (.createDesktop window) with
  | ok change =>
      rw [startsDesktop_of_accepted preparing outcome] at noStart
      cases noStart
  | error cause =>
      obtain ⟨desk, rfl⟩ := exists_desk_of_withMessageWindow preparing
      unfold createDesktop Desk.apply at created
      simp only [preparing, bind, Except.bind, outcome, Except.map] at created
      cases cause with
      | refused error =>
          cases created
          refine ⟨rfl, rfl, rfl, rfl, fun gate => ?_⟩
          simp only [dispatch, onManager, createDesktop, Desk.apply, preparingToo gate, bind,
            Except.bind, outcome, Except.map]
          rfl
      | interrupted interruption => cases created

/-! ### Events -/

theorem blind_setIcon {window : WindowId} {width height : UInt32} {pixels : Option (List UInt32)}
    (dispatched : session.dispatch (.manager (.setIcon window width height pixels)) =
      .ok reaction) :
    session.Blind (·.dispatch (.manager (.setIcon window width height pixels))) reaction := by
  simp only [dispatch, onManager] at dispatched ⊢
  cases pixels with
  | none => exact blind_onDesk dispatched
  | some pixels =>
      cases admitted : Icon.forWindow window width height pixels with
      | ok icon =>
          simp only [admitted] at dispatched ⊢
          exact blind_onDesk dispatched
      | error error =>
          simp only [admitted] at dispatched ⊢
          exact blind_of_always (fun _ => rfl) dispatched

theorem blind_setCursor {request : CursorRequest}
    (dispatched : session.dispatch (.manager (.setCursor request)) = .ok reaction) :
    session.Blind (·.dispatch (.manager (.setCursor request))) reaction := by
  simp only [dispatch, onManager] at dispatched ⊢
  cases admitted : request.admit with
  | ok cursor =>
      simp only [admitted] at dispatched ⊢
      exact blind_of_always (fun _ => rfl) dispatched
  | error error =>
      simp only [admitted] at dispatched ⊢
      exact blind_of_always (fun _ => rfl) dispatched

theorem blind_manager {event : ManagerEvent}
    (noStart : session.startsDesktop (.manager event) = false)
    (dispatched : session.dispatch (.manager event) = .ok reaction) :
    session.Blind (·.dispatch (.manager event)) reaction := by
  cases event with
  | createDesktop window scalingCode => exact blind_createDesktop noStart dispatched
  | setIcon => exact blind_setIcon dispatched
  | setCursor => exact blind_setCursor dispatched
  | destroyWindow window =>
      have applied : onDesk { session with router := session.router.forget window }
          (.destroy window) = .ok reaction := dispatched
      have blind := blind_onDesk applied
      exact ⟨blind.running, blind.config, blind.directory, blind.callsOpen, blind.same⟩
  | closeWindow | pollClipboard | setClipboard =>
      simp only [dispatch, onManager] at dispatched
      exact blind_of_always (fun _ => rfl) dispatched
  | createWindow | setParent | setPosition | setFocus | setText =>
      simp only [dispatch, onManager] at dispatched
      exact blind_onDesk dispatched

theorem blind_motion {sample : MotionSample}
    (dispatched : session.dispatch (.host (.motion sample)) = .ok reaction) :
    session.Blind (·.dispatch (.host (.motion sample))) reaction := by
  simp only [dispatch, onHost] at dispatched ⊢
  obtain ⟨routed, routing, rest⟩ := bind_eq_ok.mp dispatched
  cases rest
  exact ⟨rfl, rfl, rfl, rfl, fun gate =>
    bind_eq_ok.mpr ⟨routed, mapError_eq_ok.mpr (mapError_eq_ok.mp routing), rfl⟩⟩

theorem blind_host {event : HostEvent}
    (dispatched : session.dispatch (.host event) = .ok reaction) :
    session.Blind (·.dispatch (.host event)) reaction := by
  cases event with
  | motion => exact blind_motion dispatched
  | surfaceAvailable | surfaceDestroyed | viewVisibility | activityStarted | activityStopped =>
      simp only [dispatch, onHost] at dispatched ⊢
      exact blind_onDesk dispatched
  | _ =>
      simp only [dispatch, onHost] at dispatched ⊢
      exact blind_of_always (fun _ => rfl) dispatched

/-- A task that neither brings a request nor starts a desktop. -/
theorem blind_of_dispatch (noRequest : task.request? = none)
    (noStart : session.startsDesktop task = false) (goesOn : task.goesOn = true)
    (dispatched : session.dispatch task = .ok reaction) :
    session.Blind (·.dispatch task) reaction := by
  cases task with
  | manager event => exact blind_manager noStart dispatched
  | host event => exact blind_host dispatched
  | shell command =>
      cases command with
      | closeDesktop => cases goesOn
      | runCommandLine | runCommandArray => cases noRequest
  | shutdown => cases goesOn

theorem acts_of_dispatch (session : Session) (noPrefix : session.prefixDirectory = none)
    (noRequest : task.request? = none) (goesOn : task.goesOn = true)
    (dispatched : session.dispatch task = .ok reaction) :
    ∃ own operations, session.Acts task reaction.session own operations := by
  cases starts : session.startsDesktop task with
  | true => exact acts_of_startsDesktop noPrefix starts dispatched
  | false => exact ⟨_, _, (blind_of_dispatch noRequest starts goesOn dispatched).acts noPrefix⟩

/-- Only requests run commands: that of the task, those behind the gate, and those of a first
run. -/
theorem Stems.isCommand_eq_false {call : Call} (stems : session.Stems task call)
    (noRequest : task.request? = none)
    (nothing : session.startsDesktop task = true →
      session.gate.waiting = [] ∧ session.prefixDirectory = none) : call.isCommand = false := by
  cases stems with
  | bare isBare => cases call <;> first | rfl | cases isBare
  | axes | gamepad | text | clip => rfl
  | request asked =>
      rcases asked with brought | ⟨starts, waits | hasPrefix⟩
      · rw [noRequest] at brought
        cases brought
      · simp [(nothing starts).1] at waits
      · simp [(nothing starts).2] at hasPrefix

/-- The calls of a task of its own run no commands: with an empty gate there are no others. -/
theorem Acts.isCommand_own (acts : session.Acts task after own operations)
    (noPrefix : session.prefixDirectory = none) (noRequest : task.request? = none) :
    ∀ call ∈ own, call.isCommand = false := by
  intro call member
  obtain ⟨notices, dispatched⟩ := acts.dispatched {}
  have stems := stems_dispatch { session with gate := {} } task call
    (by rw [dispatched]; exact List.mem_append_left _ member)
  exact stems.isCommand_eq_false noRequest fun _ => ⟨by simp [Gate.waiting], noPrefix⟩

/-! ## Requests -/

/-- Dispatching a request is an operation on the gate. -/
theorem dispatch_request {request : CommandRequest} (brings : task.request? = some request) :
    session.dispatch task =
      .ok
        { session := { session with gate := (session.gate.perform (.submit request)).1 }
          calls := session.deliver (session.gate.perform (.submit request)).2.1 } := by
  cases task with
  | shell command =>
      cases command with
      | runCommandLine | runCommandArray =>
          cases brings
          rfl
      | closeDesktop => cases brings
  | manager | host | shutdown => cases brings

/-! ## Runs -/

/-- Tasks carried out one after the other, the session going on behind each of them. -/
inductive Performs : Session → List Task → Session → List Call → Prop where
  | nil (session : Session) : Performs session [] session []
  | cons {session : Session} {task : Task} {reaction : Reaction} {rest : List Task}
      {last : Session} {calls : List Call} (dispatched : session.dispatch task = .ok reaction)
      (running : reaction.running = true) (later : Performs reaction.session rest last calls) :
      Performs session (task :: rest) last (reaction.calls ++ calls)

theorem Performs.append_iff {later : List Task} :
    session.Performs (tasks ++ later) last calls ↔
      ∃ middle first second, session.Performs tasks middle first ∧
        middle.Performs later last second ∧ calls = first ++ second := by
  induction tasks generalizing session calls with
  | nil =>
      constructor
      · exact fun performs => ⟨session, [], calls, .nil session, performs, rfl⟩
      · rintro ⟨_, _, second, ⟨⟩, performs, rfl⟩
        exact performs
  | cons task rest inductionHypothesis =>
      constructor
      · rintro (_ | ⟨dispatched, running, performs⟩)
        obtain ⟨middle, first, second, before, behind, rfl⟩ := inductionHypothesis.mp performs
        exact ⟨middle, _, second, .cons dispatched running before, behind,
          (List.append_assoc _ _ _).symm⟩
      · rintro ⟨middle, _, second, _ | ⟨dispatched, running, before⟩, behind, rfl⟩
        rw [List.append_assoc]
        exact .cons dispatched running
          (inductionHypothesis.mpr ⟨middle, _, second, before, behind, rfl⟩)

/-- Such tasks leave nothing in the queue. -/
theorem Performs.pump (performs : session.Performs tasks last calls) :
    ∃ pumped, session.pump tasks = .ok pumped ∧ pumped.session = last ∧ pumped.rest = [] ∧
      pumped.calls = calls := by
  induction performs with
  | nil session => exact ⟨_, rfl, rfl, rfl, rfl⟩
  | @cons session task reaction rest last calls dispatched running later inductionHypothesis =>
      obtain ⟨pumped, ran, same, nothing, sent⟩ := inductionHypothesis
      refine ⟨_, bind_eq_ok.mpr ⟨reaction, dispatched, (if_pos running).trans
        (bind_eq_ok.mpr ⟨pumped, mapError_eq_ok.mpr ran, rfl⟩)⟩, same, nothing, ?_⟩
      exact congrArg (reaction.calls ++ ·) sent

/-- A run of tasks without requests: what it makes of the session but for the gate, its own calls,
and its operations on the gate. -/
inductive Quiet : Session → List Task → Session → List Call → List Gate.Operation → Prop where
  | nil (session : Session) : Quiet session [] session [] []
  | cons {session after last : Session} {task : Task} {rest : List Task} {own calls : List Call}
      {operations others : List Gate.Operation} (acts : session.Acts task after own operations)
      (later : Quiet after rest last calls others) :
      Quiet session (task :: rest) last (own ++ calls) (operations ++ others)

/-- The tasks of a run that bring no request are a quiet run of their own. -/
theorem quiet_of_pump (session : Session) (gate : Gate) {pumped : Pumped}
    (noPrefix : session.prefixDirectory = none)
    (goesOn : ∀ task ∈ tasks, task.goesOn = true)
    (ran : { session with gate }.pump tasks = .ok pumped) :
    ∃ last own operations,
      session.Quiet (tasks.filter (·.request?.isNone)) last own operations := by
  induction tasks generalizing session gate pumped with
  | nil => exact ⟨session, [], [], .nil session⟩
  | cons task rest inductionHypothesis =>
      obtain ⟨reaction, dispatched, later⟩ := bind_eq_ok.mp ran
      have restGoesOn : ∀ task ∈ rest, task.goesOn = true :=
        fun task member => goesOn task (List.mem_cons_of_mem _ member)
      cases brings : task.request? with
      | some request =>
          rw [dispatch_request brings] at dispatched
          cases dispatched
          obtain ⟨more, ranRest, -⟩ := bind_eq_ok.mp later
          obtain ⟨last, own, operations, quiet⟩ := inductionHypothesis session _ noPrefix
            restGoesOn (mapError_eq_ok.mp ranRest)
          exact ⟨last, own, operations, by simpa [brings] using quiet⟩
      | none =>
          obtain ⟨own, operations, acts⟩ := acts_of_dispatch { session with gate } noPrefix
            brings (goesOn task List.mem_cons_self) dispatched
          have running : reaction.running = true := by
            obtain ⟨notices, same⟩ := acts.dispatched gate
            exact congrArg Reaction.running (Except.ok.inj (dispatched.symm.trans same))
          rw [if_pos running] at later
          obtain ⟨more, ranRest, -⟩ := bind_eq_ok.mp later
          obtain ⟨last, ownLater, others, quiet⟩ := inductionHypothesis
            reaction.session reaction.session.gate acts.directory restGoesOn
            (mapError_eq_ok.mp ranRest)
          refine ⟨last, own ++ ownLater, operations ++ others, ?_⟩
          rw [List.filter_cons_of_pos (by simp [brings])]
          exact .cons ⟨acts.noRequest, acts.directory, acts.callsOpen, acts.dispatched⟩ quiet

/-- The requests that some tasks bring, but for blank ones. -/
def requests (tasks : List Task) : List CommandRequest :=
  tasks.filterMap Task.request? |>.filter (!·.isBlank)

/-- Tasks with a known quiet run are carried out whatever the gate holds. Their requests and the
operations of the quiet run are what happens to the gate, and make all calls that run commands. -/
theorem Quiet.performs (noPrefix : session.prefixDirectory = none)
    (quiet : session.Quiet (tasks.filter (·.request?.isNone)) last own operations) (gate : Gate) :
    ∃ calls all, { session with gate }.Performs tasks
        { last with gate := (gate.performAll all).1 } calls ∧
      calls.filter (!·.isCommand) = own ∧
      calls.filter (·.isCommand) = session.deliver (gate.performAll all).2 ∧
      Gate.accepted all = requests tasks ∧
      (.unlock ∈ all ↔ .unlock ∈ operations) := by
  induction tasks generalizing session own operations gate with
  | nil =>
      generalize nothing : List.filter _ ([] : List Task) = tasks at quiet
      cases quiet with
      | nil => exact ⟨[], [], .nil _, rfl, by simp [Gate.performAll, deliver], rfl, by simp⟩
      | cons => cases nothing
  | cons task rest inductionHypothesis =>
      cases brings : task.request? with
      | some request =>
          rw [List.filter_cons_of_neg (by simp [brings])] at quiet
          obtain ⟨calls, all, performs, aside, commands, accepted, opens⟩ :=
            inductionHypothesis noPrefix quiet (gate.perform (.submit request)).1
          have forwarded := deliver_filter session (gate.isCommand_perform (.submit request))
          refine ⟨session.deliver (gate.perform (.submit request)).2.1 ++ calls,
            .submit request :: all, .cons (dispatch_request brings) rfl performs, ?_, ?_, ?_, ?_⟩
          · rw [List.filter_append, forwarded.2, aside, List.nil_append]
          · rw [List.filter_append, forwarded.1, commands, ← deliver_append]
            rfl
          · simp only [Gate.accepted, requests, List.filterMap_cons, brings] at accepted ⊢
            cases blank : request.isBlank <;>
              simp [Gate.Operation.accepted?, blank, accepted]
          · simpa using opens
      | none =>
          rw [List.filter_cons_of_pos (by simp [brings])] at quiet
          cases quiet with
          | @cons _ after _ _ _ own ownLater operations others acts later =>
              obtain ⟨notices, dispatched⟩ := acts.dispatched gate
              obtain ⟨calls, all, performs, aside, commands, accepted, opens⟩ :=
                inductionHypothesis acts.directory later (gate.performAll operations).1
              have flushed := deliver_filter session (gate.isCommand_performAll operations)
              have noCommand := acts.isCommand_own noPrefix brings
              have ownAside : own.filter (!·.isCommand) = own :=
                List.filter_eq_self.mpr fun call member => by simp [noCommand call member]
              have ownCommands : own.filter (·.isCommand) = [] :=
                List.filter_eq_nil_iff.mpr fun call member => by simp [noCommand call member]
              refine ⟨own ++ session.deliver (gate.performAll operations).2 ++ calls,
                operations ++ all, .cons dispatched rfl ?_, ?_, ?_, ?_, ?_⟩
              · rw [Gate.performAll_append]
                exact performs
              · rw [List.filter_append, List.filter_append, ownAside, flushed.2, aside,
                  List.append_nil]
              · rw [List.filter_append, List.filter_append, ownCommands, flushed.1, commands,
                  deliver_congr acts.callsOpen, Gate.performAll_append, deliver_append,
                  List.nil_append]
              · rw [Gate.accepted_append, acts.noRequest, accepted, List.nil_append]
                simp only [requests, List.filterMap_cons, brings]
              · simp only [List.mem_append, opens]

/-- The gate of a session without prefix directory has seen operations only. -/
theorem gate_of_dispatchAll {config : Config} {earlier : List Task}
    (reached : (fresh config none).dispatchAll earlier = .ok session) :
    session.prefixDirectory = none ∧
      ∃ operations, session.gate = (({} : Gate).performAll operations).1 := by
  refine dispatchAll_preserves (motive := fun session => session.prefixDirectory = none ∧
    ∃ operations, session.gate = (({} : Gate).performAll operations).1) ?_ ⟨rfl, [], rfl⟩ reached
  rintro before task reaction ⟨noPrefix, seen, isGate⟩ dispatched
  cases brings : task.request? with
  | some request =>
      rw [dispatch_request brings] at dispatched
      cases dispatched
      refine ⟨noPrefix, seen ++ [.submit request], ?_⟩
      rw [Gate.performAll_append, Gate.performAll_singleton, ← isGate]
  | none =>
      cases goesOn : task.goesOn with
      | true =>
          obtain ⟨own, operations, acts⟩ :=
            acts_of_dispatch before noPrefix brings goesOn dispatched
          obtain ⟨notices, same⟩ := acts.dispatched before.gate
          refine ⟨acts.directory, seen ++ operations, ?_⟩
          rw [Gate.performAll_append, ← isGate]
          exact congrArg (·.session.gate) (Except.ok.inj (dispatched.symm.trans same))
      | false =>
          cases task with
          | shutdown =>
              cases dispatched
              exact ⟨noPrefix, seen, isGate⟩
          | shell command =>
              cases command with
              | closeDesktop =>
                  cases dispatched
                  exact ⟨noPrefix, seen, isGate⟩
              | runCommandLine | runCommandArray => cases brings
          | manager | host => cases goesOn

end Session

/-! ## Schedules -/

namespace Relay

variable {session last : Session} {queue : List Task} {plan : List (Inbound × Nat)}
  {calls : List Call}

/-- Dispatch the first tasks of the queue. -/
def pumpFirst (relay : Relay) (count : Nat) : Except Interruption (Relay × List Call) := do
  let queue := relay.tasks.getD []
  let pumped ← relay.session.pump (queue.take count)
  pure
    ({ session := pumped.session
       tasks := relay.tasks.map fun _ => pumped.rest ++ queue.drop count }, pumped.calls)

/-- Serve messages on a schedule: hand over each of them, dispatch so many tasks of the queue behind
it, and the rest at the end. -/
def serve (relay : Relay) : List (Inbound × Nat) → Except Interruption (Relay × List Call)
  | [] => do
    let (after, pumped) ← relay.pump
    pure (after, pumped.calls)
  | (message, count) :: rest => do
    let (routed, direct, _) := relay.route message
    let (pumped, sent) ← (routed.pumpFirst count).mapError (·.behind direct)
    let (last, later) ← (pumped.serve rest).mapError (·.behind (direct ++ sent))
    pure (last, direct ++ sent ++ later)

/-- The order in which a schedule has the tasks dispatched, behind those that wait already: what
brings a request is not queued. -/
def executed (queue : List Task) : List (Inbound × Nat) → List Task
  | [] => queue
  | (message, count) :: rest =>
    let task := taskOf message
    if task.request?.isSome then
      task :: (queue.take count ++ executed (queue.drop count) rest)
    else
      (queue ++ [task]).take count ++ executed ((queue ++ [task]).drop count) rest

theorem route_request {message : Inbound} {request : CommandRequest}
    (brings : (taskOf message).request? = some request) :
    ({ session, tasks := some queue } : Relay).route message =
      ({ session := { session with gate := (session.gate.perform (.submit request)).1 },
         tasks := some queue },
        session.deliver (session.gate.perform (.submit request)).2.1, true) := by
  cases message with
  | shell command =>
      cases command with
      | closeDesktop => cases brings
      | runCommandLine | runCommandArray =>
          cases brings
          rfl
  | manager | host => cases brings

theorem route_other {message : Inbound} (brings : (taskOf message).request? = none) :
    ({ session, tasks := some queue } : Relay).route message =
      ({ session, tasks := some (queue ++ [taskOf message]) }, [], true) := by
  cases message with
  | shell command =>
      cases command with
      | closeDesktop => rfl
      | runCommandLine | runCommandArray => cases brings
  | manager | host => rfl

theorem pumpFirst_of_performs {count : Nat}
    (performs : session.Performs (queue.take count) last calls) :
    ({ session, tasks := some queue } : Relay).pumpFirst count =
      .ok ({ session := last, tasks := some (queue.drop count) }, calls) := by
  obtain ⟨pumped, ran, rfl, nothing, rfl⟩ := performs.pump
  refine bind_eq_ok.mpr ⟨pumped, ran, ?_⟩
  rw [nothing]
  rfl

/-- A schedule does what its tasks do in the order in which they are dispatched. -/
theorem serve_of_performs (performs : session.Performs (executed queue plan) last calls) :
    ({ session, tasks := some queue } : Relay).serve plan =
      .ok ({ session := last, tasks := some [] }, calls) := by
  induction plan generalizing session queue calls with
  | nil =>
      obtain ⟨pumped, ran, rfl, nothing, rfl⟩ := performs.pump
      refine bind_eq_ok.mpr ⟨({ session := pumped.session, tasks := some [] }, pumped), ?_, rfl⟩
      refine bind_eq_ok.mpr ⟨pumped, ran, ?_⟩
      rw [nothing]
      rfl
  | cons entry rest inductionHypothesis =>
      obtain ⟨message, count⟩ := entry
      unfold executed at performs
      cases brings : (taskOf message).request? with
      | some request =>
          simp only [brings, Option.isSome_some, if_true] at performs
          rcases performs with _ | ⟨dispatched, running, later⟩
          rw [Session.dispatch_request brings] at dispatched
          cases dispatched
          obtain ⟨middle, first, second, before, behind, rfl⟩ :=
            Session.Performs.append_iff.mp later
          unfold serve
          simp only [route_request brings]
          refine bind_eq_ok.mpr ⟨_, mapError_eq_ok.mpr (pumpFirst_of_performs before), ?_⟩
          refine bind_eq_ok.mpr ⟨_, mapError_eq_ok.mpr (inductionHypothesis behind), ?_⟩
          rw [List.append_assoc]
          rfl
      | none =>
          simp only [brings, Option.isSome_none, Bool.false_eq_true, if_false] at performs
          obtain ⟨middle, first, second, before, behind, rfl⟩ :=
            Session.Performs.append_iff.mp performs
          unfold serve
          simp only [route_other brings]
          refine bind_eq_ok.mpr ⟨_, mapError_eq_ok.mpr (pumpFirst_of_performs before), ?_⟩
          exact bind_eq_ok.mpr ⟨_, mapError_eq_ok.mpr (inductionHypothesis behind), rfl⟩

/-- A schedule keeps the order of the tasks that bring no request. -/
theorem quiet_executed (queue : List Task) (plan : List (Inbound × Nat)) :
    (executed queue plan).filter (·.request?.isNone) =
      (queue ++ plan.map (taskOf ·.1)).filter (·.request?.isNone) := by
  induction plan generalizing queue with
  | nil => simp [executed]
  | cons entry rest inductionHypothesis =>
      unfold executed
      dsimp only
      split
      · next brings =>
          have skipped : (taskOf entry.1).request?.isNone = false := by
            simpa [Option.isNone_iff_eq_none, Option.isSome_iff_ne_none] using brings
          rw [List.filter_cons_of_neg (by simp [skipped]), List.filter_append, inductionHypothesis,
            List.filter_append, ← List.append_assoc, ← List.filter_append, List.take_append_drop,
            List.map_cons, List.filter_append, List.filter_cons_of_neg (by simp [skipped])]
      · rw [List.filter_append, inductionHypothesis, ← List.filter_append, ← List.append_assoc,
          List.take_append_drop, List.append_assoc]
        rfl

theorem filterMap_take (noRequest : ∀ task ∈ queue, task.request? = none) (count : Nat) :
    (queue.take count).filterMap Task.request? = [] :=
  List.filterMap_eq_nil_iff.mpr fun task member => noRequest task (List.mem_of_mem_take member)

/-- A schedule keeps the order of the requests. -/
theorem requests_executed {queue : List Task} (plan : List (Inbound × Nat))
    (noRequest : ∀ task ∈ queue, task.request? = none) :
    (executed queue plan).filterMap Task.request? =
      (plan.map (taskOf ·.1)).filterMap Task.request? := by
  induction plan generalizing queue with
  | nil => simpa [executed] using noRequest
  | cons entry rest inductionHypothesis =>
      obtain ⟨message, count⟩ := entry
      unfold executed
      dsimp only
      split
      · rw [List.filterMap_cons, List.filterMap_append, filterMap_take noRequest count,
          inductionHypothesis fun task member => noRequest task (List.mem_of_mem_drop member),
          List.nil_append, List.map_cons, List.filterMap_cons]
      · next brings =>
          have noRequestToo : ∀ task ∈ queue ++ [taskOf message], task.request? = none := by
            intro task member
            rcases List.mem_append.mp member with waits | joins
            · exact noRequest task waits
            · rw [List.mem_singleton.mp joins]
              simpa using brings
          rw [List.filterMap_append, filterMap_take noRequestToo count,
            inductionHypothesis fun task member => noRequestToo task (List.mem_of_mem_drop member),
            List.nil_append, List.map_cons,
            List.filterMap_cons_none (noRequestToo _ (by simp))]

/-- Whatever the schedule, serving messages on it ends with the queue empty and the session that the
direct dispatch ends with: the same windows, scene, router, composition, and clipboard, the gate
open or closed with the same requests behind it. The calls that run commands are the same in both,
and so are all others. -/
theorem schedules_agree_with_direct_dispatch {config : Config} {earlier : List Task}
    (reached : (Session.fresh config none).dispatchAll earlier = .ok session)
    (staysOpen : ∀ entry ∈ plan, entry.1 ≠ .shell .closeDesktop) {direct : Pumped}
    (directly : session.pump (plan.map (taskOf ·.1)) = .ok direct) :
    ∃ relay calls, ({ session } : Relay).serve plan = .ok (relay, calls) ∧
      relay.tasks = some [] ∧
      relay.session = { direct.session with gate := relay.session.gate } ∧
      relay.session.gate.ready = direct.session.gate.ready ∧
      relay.session.gate.waiting = direct.session.gate.waiting ∧
      calls.filter (·.isCommand) = direct.calls.filter (·.isCommand) ∧
      calls.filter (!·.isCommand) = direct.calls.filter (!·.isCommand) := by
  obtain ⟨noPrefix, seen, isGate⟩ := Session.gate_of_dispatchAll reached
  have goesOn : ∀ task ∈ plan.map (taskOf ·.1), task.goesOn = true := by
    intro task member
    obtain ⟨⟨message, count⟩, inPlan, rfl⟩ := List.mem_map.mp member
    have stays := staysOpen _ inPlan
    cases message with
    | shell command =>
        cases command with
        | closeDesktop => exact absurd rfl stays
        | runCommandLine | runCommandArray => rfl
    | manager | host => rfl
  obtain ⟨last, own, operations, quiet⟩ :=
    session.quiet_of_pump session.gate noPrefix goesOn directly
  -- Both runs have the same quiet run and the same requests.
  have quietToo : session.Quiet ((executed [] plan).filter (·.request?.isNone)) last own
      operations := by
    rw [quiet_executed, List.nil_append]
    exact quiet
  obtain ⟨sent, first, performs, aside, commands, accepted, opens⟩ :=
    quiet.performs noPrefix session.gate
  obtain ⟨calls, second, performsToo, asideToo, commandsToo, acceptedToo, opensToo⟩ :=
    quietToo.performs noPrefix session.gate
  have sameRequests : Gate.accepted second = Gate.accepted first := by
    rw [accepted, acceptedToo, Session.requests, Session.requests, requests_executed plan (by simp)]
  obtain ⟨sameCalls, sameReady, sameWaiting⟩ :=
    Gate.performAll_agree seen sameRequests (opensToo.trans opens.symm)
  rw [← isGate] at sameCalls sameReady sameWaiting
  obtain ⟨pumped, ran, isLast, -, isSent⟩ := performs.pump
  obtain rfl : pumped = direct := Except.ok.inj (ran.symm.trans directly)
  refine ⟨_, calls, serve_of_performs performsToo, rfl, ?_, ?_, ?_, ?_, ?_⟩
  · rw [isLast]
  · rw [isLast]
    exact sameReady
  · rw [isLast]
    exact sameWaiting
  · rw [commandsToo, isSent, commands, sameCalls]
  · rw [asideToo, isSent, aside]

/-- A request that overtakes the start of the desktop, behind which it comes when dispatched
directly, and one that waits for it. -/
def overtakingPlan : List (Inbound × Nat) :=
  [(.shell (.runCommandArray ["setup"] none), 0), (.manager (.createDesktop 1 0), 0),
    (.shell (.runCommandArray ["winecfg"] none), 0), (.host .imeFinish, 1), (.host .imeFinish, 0)]

theorem schedules_agree_overtaking :
    (Session.fresh {} none).dispatchAll [] = .ok (Session.fresh {} none) ∧
      (∀ entry ∈ overtakingPlan, entry.1 ≠ .shell .closeDesktop) ∧
      ∃ direct,
        (Session.fresh {} none).pump (overtakingPlan.map (taskOf ·.1)) = .ok direct ∧
        ∃ relay calls, ({ session := Session.fresh {} none } : Relay).serve overtakingPlan =
            .ok (relay, calls) ∧
          relay.tasks = some [] ∧
          relay.session = { direct.session with gate := relay.session.gate } ∧
          relay.session.gate.ready = direct.session.gate.ready ∧
          relay.session.gate.waiting = direct.session.gate.waiting ∧
          calls.filter (·.isCommand) = direct.calls.filter (·.isCommand) ∧
          calls.filter (!·.isCommand) = direct.calls.filter (!·.isCommand) := by
  have staysOpen : ∀ entry ∈ overtakingPlan, entry.1 ≠ .shell .closeDesktop := by decide
  obtain ⟨direct, directly⟩ : ∃ direct,
      (Session.fresh {} none).pump (overtakingPlan.map (taskOf ·.1)) = .ok direct := ⟨_, rfl⟩
  have reached : (Session.fresh {} none).dispatchAll [] = .ok (Session.fresh {} none) := rfl
  exact ⟨reached, staysOpen, direct, directly,
    schedules_agree_with_direct_dispatch reached staysOpen directly⟩

end Relay

end WindowRelay
