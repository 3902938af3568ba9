import WindowRelay.Proofs.Clipboard.Report
import WindowRelay.Proofs.Session.Startup

/-!
Contract: what was reported of the clipboard, against the snapshot from which its text is read.

Owns:
- the reports among some calls, and the occurrences that poll;
- one law for all occurrences: a poll reports the clip that it keeps, and anything else reports
  nothing and leaves the snapshot alone;
- the reports of a run, the last of which tells of the snapshot;
- a text that is set and then polled.

The host may be ahead of the snapshot: a text that is set reaches the host alone, until a poll.
-/

namespace WindowRelay

/-! ## Reports and polls -/

namespace Call

/-- The flags and MIME types that a call reports of a clip. -/
def clipReport? : Call → Option (UInt32 × Option (List String))
  | .clipboardUpdate flags mimeTypes => some (flags, mimeTypes)
  | _ => none

/-- What some calls report of clips, in order. -/
def clipReports (calls : List Call) : List (UInt32 × Option (List String)) :=
  calls.filterMap clipReport?

theorem clipReports_append (earlier later : List Call) :
    clipReports (earlier ++ later) = clipReports earlier ++ clipReports later :=
  List.filterMap_append

theorem clipReports_eq_nil {calls : List Call}
    (silent : ∀ call ∈ calls, call.clipReport? = none) : clipReports calls = [] :=
  List.filterMap_eq_nil_iff.mpr silent

theorem clipReport?_of_isBare {call : Call} (isBare : call.isBare = true) :
    call.clipReport? = none := by
  cases call <;> first | rfl | cases isBare

end Call

theorem CommandRequest.clipReport?_call (request : CommandRequest) :
    request.call.clipReport? = none := by
  cases request <;> rfl

namespace Occurrence

/-- The occurrence has the clip of the host re-read. -/
def polls : Occurrence → Bool
  | .task work => work.polls
  | .submission _ | .marker _ | .access _ => false

end Occurrence

namespace Session

variable {session next last : Session} {task : Task} {reaction : Reaction}
  {occurrence : Occurrence} {occurrences : List Occurrence} {calls received : List Call}

/-! ## One occurrence -/

theorem snapshot_of_onDesk {event : TreeEvent} {andThen : Session → List Call}
    (applied : session.onDesk event andThen = .ok reaction) :
    reaction.session.snapshot = session.snapshot := by
  rcases onDesk_eq_ok applied with same | ⟨change, -, same⟩
  · rw [same]
  · rw [same]

theorem snapshot_of_createDesktop {window : WindowId} {scalingCode : UInt32}
    (created : session.createDesktop window scalingCode = .ok reaction) :
    reaction.session.snapshot = session.snapshot := by
  obtain ⟨prepared, preparing, rest⟩ := bind_eq_ok.mp created
  obtain ⟨desk, rfl⟩ := exists_desk_of_withMessageWindow preparing
  cases outcome : desk.tree.change desk.scene.hasViews (.createDesktop window) with
  | ok change =>
      rw [createDesktop_of_accepted preparing outcome, startedBy_eq] at created
      cases created
      rfl
  | error cause =>
      unfold Desk.apply at rest
      rw [outcome] at rest
      cases cause with
      | refused error =>
          cases rest
          rfl
      | interrupted interruption => cases rest

/-- Only a poll changes the snapshot. -/
theorem snapshot_of_dispatch (quiet : task.polls = false)
    (dispatched : session.dispatch task = .ok reaction) :
    reaction.session.snapshot = session.snapshot := by
  cases task with
  | manager event =>
      cases event with
      | createDesktop => exact snapshot_of_createDesktop dispatched
      | pollClipboard => cases quiet
      | setIcon window width height pixels =>
          simp only [dispatch, onManager] at dispatched
          repeat' split at dispatched
          · exact snapshot_of_onDesk dispatched
          · exact snapshot_of_onDesk dispatched
          · cases dispatched
            rfl
      | setCursor request =>
          simp only [dispatch, onManager] at dispatched
          split at dispatched <;>
            · cases dispatched
              rfl
      | closeWindow | setClipboard =>
          cases dispatched
          rfl
      | createWindow | destroyWindow | setParent | setPosition | setFocus | setText =>
          simp only [dispatch, onManager] at dispatched
          have kept := snapshot_of_onDesk dispatched
          exact kept
  | shell command =>
      cases command <;>
        · cases dispatched
          rfl
  | host event =>
      cases event with
      | motion sample =>
          obtain ⟨routed, -, rest⟩ := bind_eq_ok.mp dispatched
          cases rest
          rfl
      | clipboardChanged => cases quiet
      | surfaceAvailable | surfaceDestroyed | viewVisibility | activityStarted | activityStopped =>
          simp only [dispatch, onHost] at dispatched
          exact snapshot_of_onDesk dispatched
      | _ =>
          cases dispatched
          rfl
  | shutdown =>
      cases dispatched
      rfl

theorem Stems.clipReport?_eq_none {call : Call} (stems : session.Stems task call)
    (quiet : task.polls = false) : call.clipReport? = none := by
  cases stems with
  | bare isBare => exact Call.clipReport?_of_isBare isBare
  | axes | gamepad | text => rfl
  | clip polls => cases quiet.symm.trans polls
  | @request request => exact request.clipReport?_call

/-- What does not poll reports nothing and leaves the snapshot alone. -/
theorem undergo_of_not_polls (quiet : occurrence.polls = false)
    (undergone : session.undergo occurrence = .ok (next, calls)) :
    Call.clipReports calls = [] ∧ next.snapshot = session.snapshot := by
  cases occurrence with
  | task work =>
      obtain ⟨reaction, dispatched, isNext⟩ := bind_eq_ok.mp undergone
      cases isNext
      refine ⟨Call.clipReports_eq_nil fun call member => ?_, snapshot_of_dispatch quiet dispatched⟩
      have stems := session.stems_dispatch work
      rw [dispatched] at stems
      exact (stems call member).clipReport?_eq_none quiet
  | submission request =>
      cases undergone
      refine ⟨Call.clipReports_eq_nil fun call member => ?_, rfl⟩
      rw [Gate.eq_of_mem_submit (mem_of_mem_deliver member)]
      exact request.clipReport?_call
  | marker | access =>
      cases undergone
      exact ⟨rfl, rfl⟩

/-- The clip of the host becomes the snapshot, and is what is reported. -/
theorem pollClipboard_eq (callsOpen : session.callsOpen = true) :
    session.pollClipboard =
      { session := { session with snapshot := session.scene.clip }
        calls := [Clipboard.report session.ownUri session.scene.clip] } := by
  have isOpen : { session with snapshot := session.scene.clip }.callsOpen = true := callsOpen
  simp only [pollClipboard, sending, deliver_of_open isOpen]

/-- A poll reports the clip that it keeps. -/
theorem clipReports_of_polls (callsOpen : session.callsOpen = true)
    (polls : occurrence.polls = true)
    (undergone : session.undergo occurrence = .ok (next, calls)) :
    Call.clipReports calls = [Clipboard.classify next.ownUri next.snapshot] := by
  have reported (polled : Session) (isOpen : polled.callsOpen = true)
      (isNext : (polled.pollClipboard.session, polled.pollClipboard.calls) = (next, calls)) :
      Call.clipReports calls = [Clipboard.classify next.ownUri next.snapshot] := by
    rw [pollClipboard_eq isOpen] at isNext
    cases isNext
    rfl
  unfold Occurrence.polls Task.polls at polls
  repeat' split at polls
  · exact reported session callsOpen (Except.ok.inj undergone)
  · exact reported _ (by exact callsOpen) (Except.ok.inj undergone)
  all_goals cases polls

/-! ## Runs -/

theorem ownUri_congr (sameConfig : next.config = session.config) :
    next.ownUri = session.ownUri := by
  unfold ownUri
  rw [sameConfig]

/-- A run reports one clip for each poll, and the last report tells of the snapshot behind it. -/
theorem reports_undergoAll (callsOpen : session.callsOpen = true)
    (ran : session.undergoAll occurrences = .ok (last, received)) :
    (Call.clipReports received).length = occurrences.countP Occurrence.polls ∧
      (Call.clipReports received = [] → last.snapshot = session.snapshot) ∧
      ∀ report ∈ (Call.clipReports received).getLast?,
        report = Clipboard.classify last.ownUri last.snapshot := by
  induction occurrences generalizing session received with
  | nil =>
      cases ran
      exact ⟨rfl, fun _ => rfl, nofun⟩
  | cons occurrence rest inductionHypothesis =>
      obtain ⟨next, calls, later, undergone, ranRest, rfl⟩ := undergoAll_cons.mp ran
      have nextOpen := (same_of_undergo callsOpen undergone).2
      obtain ⟨counted, kept, agrees⟩ := inductionHypothesis nextOpen ranRest
      rw [Call.clipReports_append, List.length_append, List.countP_cons, counted]
      cases polls : occurrence.polls with
      | false =>
          obtain ⟨silent, same⟩ := undergo_of_not_polls polls undergone
          rw [silent, List.nil_append]
          exact ⟨by simp, fun none => (kept none).trans same, agrees⟩
      | true =>
          have reported := clipReports_of_polls callsOpen polls undergone
          have sameUri := ownUri_congr (same_undergoAll nextOpen ranRest).1
          rw [reported, List.singleton_append]
          refine ⟨by simp [Nat.add_comm], nofun, fun report member => ?_⟩
          -- If nothing was reported later, the snapshot is still the one of this poll.
          cases others : Call.clipReports later with
          | nil =>
              rw [others] at member
              rw [kept others, sameUri]
              exact (Option.mem_some.mp member).symm
          | cons second more =>
              rw [others, List.getLast?_cons_cons, ← others] at member
              exact agrees report member

/-! ## Texts that are set -/

/-- The session behind a text that is set. -/
def publishing (session : Session) (text : String) : Session :=
  session.withScene
    { session.scene with clip := some (Clipboard.publish session.ownUri text) }

theorem undergo_setClipboard (session : Session) (text : String) :
    session.undergo (.task (.manager (.setClipboard text))) =
      .ok (session.publishing text, []) :=
  rfl

theorem undergo_pollClipboard (callsOpen : session.callsOpen = true) :
    session.undergo (.task (.manager .pollClipboard)) =
      .ok ({ session with snapshot := session.scene.clip },
        [Clipboard.report session.ownUri session.scene.clip]) := by
  have dispatched : session.dispatch (.manager .pollClipboard) = .ok session.pollClipboard := rfl
  rw [undergo_of_dispatch dispatched, pollClipboard_eq callsOpen]

/-- What the next poll reports of a text that is set. -/
theorem report_publishing (session : Session) (text : String) :
    Clipboard.report (session.publishing text).ownUri (session.publishing text).scene.clip =
      .clipboardUpdate (Clipboard.publishedFlags
        session.config.clipboard.providerAuthority.isSome text) (some []) := by
  have classified := Clipboard.classify_publish session.ownUri text
  rw [ownUri, Option.isSome_map, ← ownUri] at classified
  exact congrArg (fun report => Call.clipboardUpdate report.1 report.2) classified

/-- A text is published to the host alone; the next poll reports it with the flags of a published
clip, and it is read back unchanged. -/
theorem setClipboard_then_poll (callsOpen : session.callsOpen = true) (text : String) :
    ∃ published, session.undergo (.task (.manager (.setClipboard text))) = .ok (published, []) ∧
      published.snapshot = session.snapshot ∧
      ∃ polled, published.undergo (.task (.manager .pollClipboard)) =
          .ok (polled, [.clipboardUpdate (Clipboard.publishedFlags
            session.config.clipboard.providerAuthority.isSome text) (some [])]) ∧
        polled.clipboardText Clipboard.hasText = text := by
  have stillOpen : (session.publishing text).callsOpen = true := callsOpen
  have polled := undergo_pollClipboard stillOpen
  rw [report_publishing] at polled
  exact ⟨_, undergo_setClipboard session text, rfl, _, polled,
    Clipboard.text_publish session.ownUri text⟩

/-! ## The clipboard of a run -/

/-- In every run of a fresh session, each poll reports a clip and nothing else does. The last report
is the classification of the snapshot, with neither flags nor MIME types if and only if there is no
clip or it has no items. Plain text can be read if and only if that report tells of a text that is
not empty, and no other text can be read. A text that is set changes neither report nor snapshot; if
a poll follows, the text is reported with exactly the flags of a published clip, and can be
read. -/
theorem last_report_tells_of_snapshot (config : Config) (directory : Option PrefixDirectory)
    (occurrences : List Occurrence) (session : Session) (received : List Call)
    (ran : (fresh config directory).undergoAll occurrences = .ok (session, received)) :
    (Call.clipReports received).length = occurrences.countP Occurrence.polls ∧
    ((∃ occurrence ∈ occurrences, occurrence.polls = true) →
      ∃ flags mimeTypes, (Call.clipReports received).getLast? = some (flags, mimeTypes) ∧
        (flags, mimeTypes) = Clipboard.classify session.ownUri session.snapshot ∧
        ((flags = 0 ∧ mimeTypes = none) ↔ ∀ held ∈ session.snapshot, held.items = []) ∧
        (session.clipboardText Clipboard.hasText ≠ "" ↔
          coversBits flags Clipboard.hasText = true ∧
            coversBits flags Clipboard.emptyText = false)) ∧
    ((∀ occurrence ∈ occurrences, occurrence.polls = false) → session.snapshot = none) ∧
    (∀ flags, flags ≠ Clipboard.hasText → session.clipboardText flags = "") ∧
    ∀ text, ∃ published,
      session.undergo (.task (.manager (.setClipboard text))) = .ok (published, []) ∧
      published.snapshot = session.snapshot ∧
      ∃ polled, published.undergo (.task (.manager .pollClipboard)) =
          .ok (polled, [.clipboardUpdate (Clipboard.publishedFlags
            config.clipboard.providerAuthority.isSome text) (some [])]) ∧
        polled.clipboardText Clipboard.hasText = text := by
  obtain ⟨sameConfig, callsOpen⟩ := same_undergoAll rfl ran
  obtain ⟨counted, kept, agrees⟩ := reports_undergoAll rfl ran
  refine ⟨counted, fun polled => ?_, fun quiet => ?_, fun _ => Clipboard.text_of_ne _, ?_⟩
  · have someReport : Call.clipReports received ≠ [] := by
      rw [← List.length_pos_iff, counted]
      exact List.countP_pos_iff.mpr polled
    obtain ⟨report, isLast⟩ := Option.ne_none_iff_exists'.mp
      (mt List.getLast?_eq_none_iff.mp someReport)
    have classified := agrees report isLast
    refine ⟨report.1, report.2, isLast, classified, ?_, ?_⟩
    · rw [← Prod.mk.injEq, classified]
      exact Clipboard.classify_eq_nothing_iff _ _
    · rw [classified]
      exact Clipboard.text_ne_empty_iff _ _
  · have silent : Call.clipReports received = [] := by
      rw [← List.length_eq_zero_iff, counted, List.countP_eq_zero]
      exact fun occurrence member => by simp [quiet occurrence member]
    exact kept silent
  · have configured : session.config = config := sameConfig
    rw [← configured]
    exact setClipboard_then_poll callsOpen

/-- A clip from elsewhere, with markup but without text. -/
def foreignClip : Clip where
  label := "browser"
  mimeTypes := ["text/html"]
  items := [{ html := some "<b></b>", uri := some "content://elsewhere/1" }]

/-- A configuration under which published clips are marked. -/
def authorised : Config where
  clipboard := { providerAuthority := some "org.example.wine" }

/-- The text that was published first gives way to a clip from elsewhere. -/
def foreignClipRun : List Occurrence :=
  [.task (.manager (.setClipboard "hello")), .task (.manager .pollClipboard),
    .task (.host (.clipboardChanged (some foreignClip)))]

theorem last_report_of_foreignClip :
    ∃ session received, (fresh authorised none).undergoAll foreignClipRun =
        .ok (session, received) ∧
      (Call.clipReports received).length = 2 ∧
      (Call.clipReports received).getLast? =
        some (Clipboard.hasUri ||| Clipboard.hasHtml, some ["text/html"]) ∧
      session.clipboardText Clipboard.hasText = "" ∧
      ∃ published, session.undergo (.task (.manager (.setClipboard ""))) = .ok (published, []) ∧
        ∃ polled, published.undergo (.task (.manager .pollClipboard)) =
            .ok (polled, [.clipboardUpdate (Clipboard.ours ||| Clipboard.hasText |||
              Clipboard.emptyText ||| Clipboard.hasUri) (some [])]) ∧
          polled.clipboardText Clipboard.hasText = "" := by
  have completed : (fresh authorised none).completes foreignClipRun
      (fun last => Clipboard.classify last.ownUri last.snapshot =
        (Clipboard.hasUri ||| Clipboard.hasHtml, some ["text/html"])) = true := by
    decide +kernel
  obtain ⟨session, received, ran, classified⟩ := exists_of_completes completed
  obtain ⟨counted, tells, -, -, sets⟩ :=
    last_report_tells_of_snapshot authorised none foreignClipRun session received ran
  obtain ⟨flags, mimeTypes, isLast, agrees, -, readable⟩ :=
    tells ⟨.task (.manager .pollClipboard), by decide, rfl⟩
  rw [of_decide_eq_true classified, Prod.mk.injEq] at agrees
  obtain ⟨rfl, rfl⟩ := agrees
  have unreadable : session.clipboardText Clipboard.hasText = "" := by
    by_contra hasOne
    exact absurd (readable.mp hasOne).1 (by decide)
  obtain ⟨published, isSet, -, polled, isPolled, readBack⟩ := sets ""
  exact ⟨session, received, ran, counted, isLast, unreadable, published, isSet, polled, isPolled,
    readBack⟩

end Session

end WindowRelay
