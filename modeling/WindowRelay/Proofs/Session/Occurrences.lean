import WindowRelay.Proofs.Session.Schedules
import WindowRelay.Proofs.Tree.Records

/-!
Contract: what may come to a session, from whichever side, and what each of it does to the startup.

Owns:
- tasks, requests that do not wait behind tasks, and what others do to the prefix directory;
- the calls of a start of a desktop;
- one law for each occurrence: it submits a request, it starts a desktop, or it leaves the gate
  alone and runs no command; what follows for the gate, the first run and the desktop window.
-/

namespace WindowRelay

/-! ## What may come to a session -/

/-- What may come to a session: a task, a request past the tasks, or somebody else who writes or
removes the marker of the prefix directory, or allows or forbids to write there. -/
inductive Occurrence where
  | task (task : Task)
  | submission (request : CommandRequest)
  | marker (present : Bool)
  | access (granted : Bool)
deriving DecidableEq, Repr

namespace Occurrence

/-- The request that an occurrence brings. -/
def request? : Occurrence → Option CommandRequest
  | .task work => work.request?
  | .submission request => some request
  | .marker _ | .access _ => none

/-- The requests among some occurrences that are not blank, in the order of their arrival. -/
def requests (occurrences : List Occurrence) : List CommandRequest :=
  (occurrences.filterMap request?).filter (!·.isBlank)

theorem requests_append (earlier later : List Occurrence) :
    requests (earlier ++ later) = requests earlier ++ requests later := by
  simp [requests]

/-- What an occurrence makes of the prefix directory, unless it starts a desktop. -/
def onDirectory : Occurrence → PrefixDirectory → PrefixDirectory
  | .marker present, directory => { directory with marked := present }
  | .access granted, directory => { directory with writable := granted }
  | .task _, directory | .submission _, directory => directory

end Occurrence

/-! ## The prefix directory -/

/-- The prefix directory behind the start of a desktop. -/
def PrefixDirectory.stamped (directory : PrefixDirectory) : PrefixDirectory :=
  { directory with marked := directory.marked || directory.writable }

theorem PrefixDirectory.stamped_of_marked (directory : PrefixDirectory)
    (marked : directory.marked = true) : directory.stamped = directory := by
  obtain ⟨_, writable⟩ := directory
  cases marked
  rfl

namespace Session

variable {session next : Session} {occurrence : Occurrence} {calls : List Call}
  {window : WindowId}

/-- The session behind an occurrence, and the calls received. -/
def undergo (session : Session) : Occurrence → Except Interruption (Session × List Call)
  | .task task => do
    let reaction ← session.dispatch task
    pure (reaction.session, reaction.calls)
  | .submission request =>
    let (after, calls, _) := session.submit request
    .ok (after, calls)
  | .marker present =>
    let directory := session.prefixDirectory.map (Occurrence.marker present).onDirectory
    .ok ({ session with prefixDirectory := directory }, [])
  | .access granted =>
    let directory := session.prefixDirectory.map (Occurrence.access granted).onDirectory
    .ok ({ session with prefixDirectory := directory }, [])

/-- The occurrence creates a desktop, and nothing is dropped. -/
def starts (session : Session) : Occurrence → Bool
  | .task task => session.startsDesktop task
  | _ => false

/-- There is a prefix directory, and it has no marker. -/
def firstRunDue (session : Session) : Bool :=
  session.prefixDirectory.any (!·.marked)

/-- The calls of a first run, if it is due. -/
def firstRunCalls (session : Session) : List Call :=
  if session.firstRunDue then
    (session.config.startup.firstRunCommands.filter (!·.isEmpty)).map (.runCommandArray · none)
  else []

/-! ## The start of a desktop -/

theorem deliver_of_open (callsOpen : session.callsOpen = true) (calls : List Call) :
    session.deliver calls = calls :=
  if_pos callsOpen

/-- An open gate lets through all requests that are not blank. -/
theorem submitAll_of_ready (isOpen : session.gate.ready = true) (requests : List CommandRequest) :
    session.submitAll requests =
      (session, session.deliver ((requests.filter (!·.isBlank)).map CommandRequest.call)) := by
  induction requests with
  | nil => simp [submitAll, deliver]
  | cons request rest inductionHypothesis =>
      cases blank : request.isBlank with
      | true =>
          have submitted : session.submit request = (session, [], .dropped) := by
            simp [submit, Gate.submit_blank blank, deliver]
          simp [submitAll, submitted, inductionHypothesis, blank]
      | false =>
          have submitted : session.submit request =
              (session, session.deliver [request.call], .forwarded) := by
            simp [submit, Gate.submit_open blank isOpen]
          simp [submitAll, submitted, inductionHypothesis, blank, ← deliver_append]

theorem firstRun_of_ready (isOpen : session.gate.ready = true) :
    session.firstRun =
      ({ session with prefixDirectory := session.prefixDirectory.map PrefixDirectory.stamped },
        session.deliver session.firstRunCalls) := by
  cases found : session.prefixDirectory with
  | none =>
      have same : { session with prefixDirectory := none } = session := by rw [← found]
      simp [firstRun, firstRunCalls, firstRunDue, found, same, deliver]
  | some directory =>
      cases marked : directory.marked with
      | true =>
          have same : { session with prefixDirectory := some directory.stamped } = session := by
            rw [directory.stamped_of_marked marked, ← found]
          simp [firstRun, firstRunCalls, firstRunDue, found, marked, same, deliver]
      | false =>
          have solid : (fun request : CommandRequest => !request.isBlank) ∘
              (fun arguments => CommandRequest.array arguments none) = (!·.isEmpty) := rfl
          simp [firstRun, firstRunCalls, firstRunDue, found, marked, PrefixDirectory.stamped,
            submitAll_of_ready isOpen, List.filter_map, solid, Function.comp_def,
            CommandRequest.call]

/-- What the start of a desktop gives. -/
theorem startedBy_eq (session : Session) (dpi : UInt32) :
    startedBy session dpi =
      { session :=
          { session with
            gate := session.gate.unlock.1
            prefixDirectory := session.prefixDirectory.map PrefixDirectory.stamped }
        calls := session.deliver
          (.configChanged dpi :: (session.gate.unlock.2 ++ session.firstRunCalls)) } := by
  have ran : session.unlock.1.firstRun =
      ({ session.unlock.1 with
          prefixDirectory := session.prefixDirectory.map PrefixDirectory.stamped },
        session.deliver session.firstRunCalls) :=
    firstRun_of_ready session.gate.ready_unlock
  have inOrder : .configChanged dpi :: (session.gate.unlock.2 ++ session.firstRunCalls) =
      [.configChanged dpi] ++ session.gate.unlock.2 ++ session.firstRunCalls := rfl
  unfold startedBy
  rw [ran, inOrder, deliver_append, deliver_append]
  rfl

/-! ## One occurrence -/

/-- Configuration, gate and channel stay as they are, and the prefix directory is what the
occurrence makes of it. -/
structure LeavesGate (session : Session) (occurrence : Occurrence) (next : Session) : Prop where
  config : next.config = session.config
  gate : next.gate = session.gate
  callsOpen : next.callsOpen = session.callsOpen
  directory : next.prefixDirectory = session.prefixDirectory.map occurrence.onDirectory

/-- What an occurrence does while the calls are received: it submits a request to the gate, it
starts a desktop, or it leaves the gate alone and runs no command, even when it is interrupted. -/
inductive Undergoes (session : Session) :
    Occurrence → Except Interruption (Session × List Call) → Prop where
  | submits {occurrence : Occurrence} {request : CommandRequest}
      (brings : occurrence.request? = some request) :
      Undergoes session occurrence
        (.ok ({ session with gate := (session.gate.submit request).1 },
          (session.gate.submit request).2.1))
  | begins {window : WindowId} {scalingCode : UInt32} (desk : Desk)
      (registered : desk.tree.desktop = some window)
      (starts : session.startsDesktop (.manager (.createDesktop window scalingCode)) = true) :
      Undergoes session (.task (.manager (.createDesktop window scalingCode)))
        (.ok
          ({ session with
              desk
              gate := session.gate.unlock.1
              prefixDirectory := session.prefixDirectory.map PrefixDirectory.stamped },
            .configChanged (scaling session.config.display.startupDpi scalingCode).2 ::
              (session.gate.unlock.2 ++ session.firstRunCalls)))
  | other {occurrence : Occurrence} {outcome : Except Interruption (Session × List Call)}
      (noRequest : occurrence.request? = none) (noStart : session.starts occurrence = false)
      (noCommand : ∀ call ∈ sentBy Prod.snd outcome, call.isCommand = false)
      (leaves : ∀ next calls, outcome = .ok (next, calls) → session.LeavesGate occurrence next) :
      Undergoes session occurrence outcome

theorem leavesGate_of_dispatch {task : Task} {reaction : Reaction}
    (noRequest : task.request? = none) (noStart : session.startsDesktop task = false)
    (dispatched : session.dispatch task = .ok reaction) :
    session.LeavesGate (.task task) reaction.session := by
  have sameDirectory : session.prefixDirectory.map (Occurrence.task task).onDirectory =
      session.prefixDirectory := Option.map_id'
  cases goesOn : task.goesOn with
  | true =>
      have blind := blind_of_dispatch noRequest noStart goesOn dispatched
      have sameGate : reaction.session.gate = session.gate :=
        congrArg (·.session.gate) (Except.ok.inj (dispatched.symm.trans (blind.same session.gate)))
      exact ⟨blind.config, sameGate, blind.callsOpen, blind.directory.trans sameDirectory.symm⟩
  | false =>
      cases task with
      | shutdown =>
          cases dispatched
          exact ⟨rfl, rfl, rfl, sameDirectory.symm⟩
      | shell command =>
          cases command with
          | closeDesktop =>
              cases dispatched
              exact ⟨rfl, rfl, rfl, sameDirectory.symm⟩
          | runCommandLine | runCommandArray => cases noRequest
      | manager | host => cases goesOn

theorem undergo_of_dispatch {task : Task} {reaction : Reaction}
    (dispatched : session.dispatch task = .ok reaction) :
    session.undergo (.task task) = .ok (reaction.session, reaction.calls) :=
  bind_eq_ok.mpr ⟨reaction, dispatched, rfl⟩

theorem undergo_of_interrupted {task : Task} {interruption : Interruption}
    (dispatched : session.dispatch task = .error interruption) :
    session.undergo (.task task) = .error interruption := by
  simp only [undergo, dispatched, bind, Except.bind]

theorem undergoes_task (callsOpen : session.callsOpen = true) (task : Task) :
    session.Undergoes (.task task) (session.undergo (.task task)) := by
  cases brings : task.request? with
  | some request =>
      rw [undergo_of_dispatch (dispatch_request brings), deliver_of_open callsOpen]
      exact .submits brings
  | none =>
      cases starts : session.startsDesktop task with
      | true =>
          obtain ⟨window, scalingCode, prepared, change, rfl, preparing, accepted⟩ :=
            exists_of_startsDesktop starts
          have created : session.dispatch (.manager (.createDesktop window scalingCode)) = _ :=
            createDesktop_of_accepted preparing accepted
          obtain ⟨desk, rfl⟩ := exists_desk_of_withMessageWindow preparing
          rw [startedBy_eq, deliver_of_open (by exact callsOpen)] at created
          rw [undergo_of_dispatch created]
          have registered : change.tree.desktop = some window := by
            obtain ⟨-, -, rfl⟩ := Tree.createDesktop_eq_ok accepted
            rfl
          exact .begins _ registered starts
      | false =>
          have noCommand : ∀ call ∈ sentBy Reaction.calls (session.dispatch task),
              call.isCommand = false := fun call member =>
            (session.stems_dispatch task call member).isCommand_eq_false brings
              fun begun => by simp [starts] at begun
          cases dispatched : session.dispatch task with
          | error interruption =>
              rw [dispatched] at noCommand
              rw [undergo_of_interrupted dispatched]
              exact .other brings starts noCommand fun _ _ isNext => by cases isNext
          | ok reaction =>
              rw [dispatched] at noCommand
              rw [undergo_of_dispatch dispatched]
              refine .other brings starts noCommand fun next calls isNext => ?_
              cases isNext
              exact leavesGate_of_dispatch brings starts dispatched

/-- The law of all occurrences. -/
theorem undergoes (callsOpen : session.callsOpen = true) (occurrence : Occurrence) :
    session.Undergoes occurrence (session.undergo occurrence) := by
  cases occurrence with
  | task task => exact undergoes_task callsOpen task
  | submission request =>
      have submitted : session.undergo (.submission request) =
          .ok ({ session with gate := (session.gate.submit request).1 },
            (session.gate.submit request).2.1) := by
        simp only [undergo, submit, deliver_of_open callsOpen]
      rw [submitted]
      exact .submits rfl
  | marker | access =>
      refine .other rfl rfl (List.forall_mem_nil _) fun next calls isNext => ?_
      cases isNext
      exact ⟨rfl, rfl, rfl, rfl⟩

theorem undergoes_of_ok (callsOpen : session.callsOpen = true)
    (undergone : session.undergo occurrence = .ok (next, calls)) :
    session.Undergoes occurrence (.ok (next, calls)) :=
  undergone ▸ undergoes callsOpen occurrence

theorem starts_eq_false {request : CommandRequest} (brings : occurrence.request? = some request) :
    session.starts occurrence = false := by
  cases occurrence with
  | task task =>
      cases task with
      | shell => rfl
      | manager | host | shutdown => cases brings
  | submission | marker | access => rfl

/-- Nothing changes the configuration and the channel. -/
theorem same_of_undergo (callsOpen : session.callsOpen = true)
    (undergone : session.undergo occurrence = .ok (next, calls)) :
    next.config = session.config ∧ next.callsOpen = true := by
  cases undergoes_of_ok callsOpen undergone with
  | submits | begins => exact ⟨rfl, callsOpen⟩
  | other _ _ _ leaves =>
      have leavesGate := leaves next calls rfl
      exact ⟨leavesGate.config, leavesGate.callsOpen.trans callsOpen⟩

/-- Exactly the start of a desktop opens the gate, and nothing closes it. -/
theorem ready_of_undergo (callsOpen : session.callsOpen = true)
    (undergone : session.undergo occurrence = .ok (next, calls)) :
    next.gate.ready = (session.gate.ready || session.starts occurrence) := by
  cases undergoes_of_ok callsOpen undergone with
  | submits brings =>
      rw [starts_eq_false brings, Bool.or_false]
      exact Gate.ready_submit _ _
  | begins desk registered starts =>
      have begun : session.starts (.task (.manager (.createDesktop _ _))) = true := starts
      rw [begun, Bool.or_true]
      exact Gate.ready_unlock _
  | other _ noStart _ leaves =>
      rw [noStart, Bool.or_false, (leaves next calls rfl).gate]

/-- While the gate stays closed, the requests that an occurrence brings join those that wait. -/
theorem waits_of_undergo {entries : List (Nat × CommandRequest)}
    (callsOpen : session.callsOpen = true) (holds : session.gate.Holds entries)
    (undergone : session.undergo occurrence = .ok (next, calls))
    (stillClosed : next.gate.ready = false) :
    ∃ more, next.gate.Holds (entries ++ more) ∧
      more.map Prod.snd = Occurrence.requests [occurrence] := by
  have ready := ready_of_undergo callsOpen undergone
  obtain ⟨closed, -⟩ : session.gate.ready = false ∧ session.starts occurrence = false := by
    simpa [stillClosed] using ready
  cases undergoes_of_ok callsOpen undergone with
  | @submits _ request brings =>
      cases blank : request.isBlank with
      | true =>
          refine ⟨[], ?_, by simp [Occurrence.requests, brings, blank]⟩
          rw [Gate.submit_blank blank, List.append_nil]
          exact holds
      | false =>
          obtain ⟨gate, submitted, -, holdsMore⟩ := holds.submit_closed blank closed
          rw [submitted]
          exact ⟨_, holdsMore, by simp [Occurrence.requests, brings, blank]⟩
  | begins =>
      rw [Gate.ready_unlock] at stillClosed
      cases stillClosed
  | other noRequest _ _ leaves =>
      refine ⟨[], ?_, by simp [Occurrence.requests, noRequest]⟩
      rw [(leaves next calls rfl).gate, List.append_nil]
      exact holds

/-- As long as the marker can be written and nobody else removes it, a first run is due behind an
occurrence only if it was due before, and the occurrence did not see to it. -/
theorem due_of_undergo (callsOpen : session.callsOpen = true)
    (writable : ∀ directory ∈ session.prefixDirectory, directory.writable = true)
    (notRemoved : occurrence ≠ .marker false) (notForbidden : occurrence ≠ .access false)
    (undergone : session.undergo occurrence = .ok (next, calls)) :
    (∀ directory ∈ next.prefixDirectory, directory.writable = true) ∧
      (next.firstRunDue = true →
        session.firstRunDue = true ∧ session.starts occurrence = false) := by
  cases undergoes_of_ok callsOpen undergone with
  | submits brings =>
      exact ⟨writable, fun due => ⟨due, starts_eq_false brings⟩⟩
  | begins =>
      cases found : session.prefixDirectory with
      | none => simp [firstRunDue]
      | some directory =>
          have isWritable := writable directory found
          simp [firstRunDue, PrefixDirectory.stamped, isWritable]
  | other _ noStart _ leaves =>
      have directoryIs := (leaves next calls rfl).directory
      unfold firstRunDue
      rw [directoryIs]
      cases found : session.prefixDirectory with
      | none => simp
      | some directory =>
          have isWritable := writable directory found
          cases occurrence with
          | task | submission => simpa [Occurrence.onDirectory, noStart] using isWritable
          | marker present =>
              cases present with
              | true => simpa [Occurrence.onDirectory] using isWritable
              | false => exact absurd rfl notRemoved
          | access granted =>
              cases granted with
              | true => simp [Occurrence.onDirectory, starts]
              | false => exact absurd rfl notForbidden

/-- At a closed gate an occurrence runs no command and leaves the gate closed, or it starts a
desktop and sends the configuration first. -/
theorem undergo_closed (closed : session.gate.ready = false) (callsOpen : session.callsOpen = true)
    (occurrence : Occurrence) :
    ((∀ call ∈ sentBy Prod.snd (session.undergo occurrence), call.isCommand = false) ∧
        ∀ next calls, session.undergo occurrence = .ok (next, calls) → next.gate.ready = false) ∨
      ∃ next dpi more, session.undergo occurrence = .ok (next, .configChanged dpi :: more) := by
  have law := undergoes callsOpen occurrence
  generalize session.undergo occurrence = outcome at law
  cases law with
  | @submits _ request brings =>
      refine .inl ⟨?_, fun next calls isNext => ?_⟩
      · simp [sentBy, Gate.submit_of_closed closed]
      · cases isNext
        exact (Gate.ready_submit _ _).trans closed
  | begins desk registered starts => exact .inr ⟨_, _, _, rfl⟩
  | other noRequest noStart noCommand leaves =>
      exact .inl ⟨noCommand, fun next calls isNext =>
        (congrArg Gate.ready (leaves next calls isNext).gate).trans closed⟩

/-- Unless it starts a desktop, an occurrence runs no command but the one that it asks for, and that
one only behind an open gate. -/
theorem commands_of_undergo (callsOpen : session.callsOpen = true)
    (noStart : session.starts occurrence = false) :
    (sentBy Prod.snd (session.undergo occurrence)).filter (·.isCommand) =
      if session.gate.ready then (Occurrence.requests [occurrence]).map CommandRequest.call
      else [] := by
  have law := undergoes callsOpen occurrence
  generalize session.undergo occurrence = outcome at law
  cases law with
  | @submits _ request brings =>
      simp only [sentBy, Occurrence.requests, List.filterMap_cons, brings, List.filterMap_nil]
      cases blank : request.isBlank with
      | true => simp [Gate.submit_blank blank, blank]
      | false =>
          cases ready : session.gate.ready with
          | true => simp [Gate.submit_open blank ready, blank, request.isCommand_call]
          | false => simp [Gate.submit_of_closed ready]
  | begins desk registered starts => cases starts.symm.trans noStart
  | other noRequest _ noCommand =>
      have nothing : Occurrence.requests [occurrence] = [] := by
        simp [Occurrence.requests, noRequest]
      rw [nothing, List.map_nil, ite_self]
      exact List.filter_eq_nil_iff.mpr fun call member => by simp [noCommand call member]

/-- The calls of a start, and the desktop behind it. -/
theorem undergo_of_starts (callsOpen : session.callsOpen = true) {scalingCode : UInt32}
    (starts : session.startsDesktop (.manager (.createDesktop window scalingCode)) = true) :
    ∃ next, session.undergo (.task (.manager (.createDesktop window scalingCode))) =
        .ok (next, .configChanged (scaling session.config.display.startupDpi scalingCode).2 ::
          (session.gate.unlock.2 ++ session.firstRunCalls)) ∧
      next.tree.desktop = some window := by
  have law := undergoes callsOpen (.task (.manager (.createDesktop window scalingCode)))
  generalize session.undergo (.task (.manager (.createDesktop window scalingCode))) = outcome at law
  cases law with
  | submits brings => cases brings
  | begins desk registered => exact ⟨_, rfl, registered⟩
  | other _ noStart => cases starts.symm.trans noStart

/-! ### The desktop behind an occurrence -/

theorem forest_of_undergo (forest : session.tree.Forest)
    (undergone : session.undergo occurrence = .ok (next, calls)) : next.tree.Forest := by
  cases occurrence with
  | task task =>
      obtain ⟨reaction, dispatched, isNext⟩ := bind_eq_ok.mp undergone
      cases isNext
      exact forest_of_dispatch forest dispatched
  | submission | marker | access =>
      cases undergone
      exact forest

/-- Only its own removal takes the desktop away. -/
theorem desktop_of_undergo (forest : session.tree.Forest)
    (isDesktop : session.tree.desktop = some window)
    (notDestroyed : occurrence ≠ .task (.manager (.destroyWindow window)))
    (undergone : session.undergo occurrence = .ok (next, calls)) :
    next.tree.desktop = some window := by
  cases occurrence with
  | task task =>
      obtain ⟨reaction, dispatched, isNext⟩ := bind_eq_ok.mp undergone
      cases isNext
      refine dispatch_preserves_onForest (motive := fun tree => tree.desktop = some window) forest
        ?_ (fun _ _ kept => kept) isDesktop dispatched
      intro event member tree hasViews change kept stays accepted
      refine Tree.desktop_of_change kept accepted stays fun isDestroy => notDestroyed ?_
      exact congrArg Occurrence.task (Task.eq_destroyWindow_of_mem (isDestroy ▸ member))
  | submission | marker | access =>
      cases undergone
      exact isDesktop

/-- A desktop is started only where there is none. -/
theorem desktop_eq_none_of_starts (forest : session.tree.Forest)
    (starts : session.starts occurrence = true) : session.tree.desktop = none := by
  cases occurrence with
  | task task =>
      obtain ⟨window, scalingCode, prepared, change, -, preparing, accepted⟩ :=
        exists_of_startsDesktop starts
      obtain ⟨noDesktop, -, -⟩ := Tree.createDesktop_eq_ok accepted
      rw [Option.eq_none_iff_forall_ne_some]
      intro desktop isDesktop
      have stays : prepared.tree.desktop = some desktop := by
        rcases withMessageWindow_eq_ok preparing with rfl | ⟨change, created, rfl⟩
        · exact isDesktop
        · exact Tree.desktop_of_change forest created isDesktop nofun
      cases noDesktop.symm.trans stays
  | submission | marker | access => cases starts

end Session

end WindowRelay
