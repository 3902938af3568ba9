import WindowRelay.Proofs.Session.Occurrences

/-!
Contract: how a session starts up, whatever comes to it.

Owns:
- runs of occurrences, whether or not they are interrupted, and what was received of them;
- no command in front of the first configuration;
- the gate behind a run, and the requests that wait there;
- the first run, which comes once, and the desktops of a run;
- the startup of every run.

The gate is opened with the first start of a desktop and never closed again. The marker is written
with it, so a later start finds both as the first one left them.
-/

namespace WindowRelay

/-! ## Calls behind a configuration -/

namespace Call

variable {calls more : List Call}

/-- Every command among some calls comes behind a configuration. -/
def ConfiguredFirst (calls : List Call) : Prop :=
  ∀ before call after, calls = before ++ call :: after → call.isCommand = true →
    ∃ dpi, configChanged dpi ∈ before

theorem ConfiguredFirst.configured (dpi : UInt32) (more : List Call) :
    ConfiguredFirst (configChanged dpi :: more) := by
  intro before call after split isCommand
  cases before with
  | nil =>
      cases split
      cases isCommand
  | cons first rest =>
      obtain ⟨rfl, -⟩ := List.cons.inj split
      exact ⟨dpi, List.mem_cons_self⟩

theorem ConfiguredFirst.behind (noCommand : ∀ call ∈ calls, call.isCommand = false)
    (later : ConfiguredFirst more) : ConfiguredFirst (calls ++ more) := by
  induction calls with
  | nil => exact later
  | cons first rest inductionHypothesis =>
      intro before call after split isCommand
      cases before with
      | nil =>
          obtain ⟨rfl, -⟩ := List.cons.inj split
          rw [noCommand first List.mem_cons_self] at isCommand
          cases isCommand
      | cons _ others =>
          obtain ⟨rfl, splitRest⟩ := List.cons.inj split
          have configured := inductionHypothesis
            (fun call member => noCommand call (List.mem_cons_of_mem _ member))
            others call after splitRest isCommand
          exact configured.imp fun _ member => List.mem_cons_of_mem _ member

theorem ConfiguredFirst.of_noCommand (noCommand : ∀ call ∈ calls, call.isCommand = false) :
    ConfiguredFirst calls := by
  have nothing : ConfiguredFirst [] := by simp [ConfiguredFirst]
  simpa using behind noCommand nothing

end Call

namespace Session

variable {session next last : Session} {occurrence : Occurrence} {occurrences : List Occurrence}
  {calls received : List Call} {window : WindowId}

/-! ## Runs -/

/-- The session behind some occurrences, and all that was received. -/
def undergoAll (session : Session) : List Occurrence → Except Interruption (Session × List Call)
  | [] => .ok (session, [])
  | occurrence :: rest => do
    let (next, calls) ← session.undergo occurrence
    let (last, later) ← (next.undergoAll rest).mapError (·.behind calls)
    pure (last, calls ++ later)

/-- The occurrences of a run, each with the session that it comes to. -/
def visits (session : Session) : List Occurrence → List (Session × Occurrence)
  | [] => []
  | occurrence :: rest =>
    (session, occurrence) ::
      match session.undergo occurrence with
      | .ok (next, _) => next.visits rest
      | .error _ => []

theorem undergoAll_cons {rest : List Occurrence} :
    session.undergoAll (occurrence :: rest) = .ok (last, received) ↔
      ∃ next calls later, session.undergo occurrence = .ok (next, calls) ∧
        next.undergoAll rest = .ok (last, later) ∧ received = calls ++ later := by
  constructor
  · intro ran
    obtain ⟨⟨next, calls⟩, undergone, rest⟩ := bind_eq_ok.mp ran
    obtain ⟨⟨final, later⟩, ranRest, isLast⟩ := bind_eq_ok.mp rest
    cases isLast
    exact ⟨next, calls, later, undergone, mapError_eq_ok.mp ranRest, rfl⟩
  · rintro ⟨next, calls, later, undergone, ranRest, rfl⟩
    exact bind_eq_ok.mpr ⟨_, undergone, bind_eq_ok.mpr ⟨_, mapError_eq_ok.mpr ranRest, rfl⟩⟩

theorem undergoAll_append {earlier later : List Occurrence}
    (ran : session.undergoAll (earlier ++ later) = .ok (last, received)) :
    ∃ middle rest, session.undergoAll earlier = .ok middle ∧
      middle.1.undergoAll later = .ok (last, rest) := by
  induction earlier generalizing session received with
  | nil => exact ⟨(session, []), received, rfl, ran⟩
  | cons occurrence rest inductionHypothesis =>
      obtain ⟨next, calls, others, undergone, ranRest, -⟩ := undergoAll_cons.mp ran
      obtain ⟨⟨middle, between⟩, more, ranEarlier, ranLater⟩ := inductionHypothesis ranRest
      exact ⟨(middle, calls ++ between), more,
        undergoAll_cons.mpr ⟨next, calls, between, undergone, ranEarlier, rfl⟩, ranLater⟩

/-- What each occurrence of a run preserves, the run preserves. -/
theorem undergoAll_preserves {motive : Session → Prop}
    (preserves : ∀ occurrence ∈ occurrences, ∀ session next calls, motive session →
      session.undergo occurrence = .ok (next, calls) → motive next)
    (start : motive session) (ran : session.undergoAll occurrences = .ok (last, received)) :
    motive last := by
  induction occurrences generalizing session received with
  | nil =>
      cases ran
      exact start
  | cons occurrence rest inductionHypothesis =>
      obtain ⟨next, calls, later, undergone, ranRest, -⟩ := undergoAll_cons.mp ran
      exact inductionHypothesis
        (fun other member => preserves other (List.mem_cons_of_mem _ member))
        (preserves occurrence List.mem_cons_self session next calls start undergone) ranRest

/-- All that is received of a run, whether or not it is interrupted behind the first occurrence. -/
theorem sent_undergoAll_of_ok {rest : List Occurrence}
    (undergone : session.undergo occurrence = .ok (next, calls)) :
    sentBy Prod.snd (session.undergoAll (occurrence :: rest)) =
      calls ++ sentBy Prod.snd (next.undergoAll rest) := by
  simp only [undergoAll, undergone, bind, Except.bind]
  cases next.undergoAll rest <;> rfl

theorem sent_undergoAll_of_interrupted {rest : List Occurrence} {interruption : Interruption}
    (undergone : session.undergo occurrence = .error interruption) :
    sentBy Prod.snd (session.undergoAll (occurrence :: rest)) = interruption.sent := by
  simp only [undergoAll, undergone, bind, Except.bind, sentBy]

/-- No command is received in front of the first configuration: a closed gate stays closed until a
desktop is started. -/
theorem configuredFirst_undergoAll (closed : session.gate.ready = false)
    (callsOpen : session.callsOpen = true) (occurrences : List Occurrence) :
    Call.ConfiguredFirst (sentBy Prod.snd (session.undergoAll occurrences)) := by
  induction occurrences generalizing session with
  | nil => exact .of_noCommand (List.forall_mem_nil _)
  | cons occurrence rest inductionHypothesis =>
      rcases undergo_closed closed callsOpen occurrence with
        ⟨noCommand, stillClosed⟩ | ⟨next, dpi, more, undergone⟩
      · cases undergone : session.undergo occurrence with
        | error interruption =>
            rw [undergone] at noCommand
            rw [sent_undergoAll_of_interrupted undergone]
            exact .of_noCommand noCommand
        | ok result =>
            obtain ⟨next, calls⟩ := result
            rw [undergone] at noCommand
            rw [sent_undergoAll_of_ok undergone]
            exact .behind noCommand (inductionHypothesis (stillClosed next calls undergone)
              (same_of_undergo callsOpen undergone).2)
      · rw [sent_undergoAll_of_ok undergone]
        exact .configured dpi _

/-! ### Configuration and gate -/

theorem visits_of_ok {rest : List Occurrence}
    (undergone : session.undergo occurrence = .ok (next, calls)) :
    session.visits (occurrence :: rest) = (session, occurrence) :: next.visits rest := by
  simp only [visits, undergone]

theorem same_undergoAll (callsOpen : session.callsOpen = true)
    (ran : session.undergoAll occurrences = .ok (last, received)) :
    last.config = session.config ∧ last.callsOpen = true := by
  refine undergoAll_preserves
    (motive := fun last => last.config = session.config ∧ last.callsOpen = true) ?_
    ⟨rfl, callsOpen⟩ ran
  rintro occurrence - before next calls ⟨config, isOpen⟩ undergone
  obtain ⟨sameConfig, stillOpen⟩ := same_of_undergo isOpen undergone
  exact ⟨sameConfig.trans config, stillOpen⟩

/-- The gate is open behind a run if it was open before, or a desktop was started. -/
theorem ready_undergoAll (callsOpen : session.callsOpen = true)
    (ran : session.undergoAll occurrences = .ok (last, received)) :
    last.gate.ready = true ↔ session.gate.ready = true ∨
      ∃ visit ∈ session.visits occurrences, visit.1.starts visit.2 = true := by
  induction occurrences generalizing session received with
  | nil =>
      cases ran
      simp [visits]
  | cons occurrence rest inductionHypothesis =>
      obtain ⟨next, calls, later, undergone, ranRest, -⟩ := undergoAll_cons.mp ran
      have ready := ready_of_undergo callsOpen undergone
      rw [inductionHypothesis (same_of_undergo callsOpen undergone).2 ranRest, ready,
        visits_of_ok undergone]
      simp [or_assoc]

/-- Behind a closed gate all requests of a run wait, in the order of their arrival. -/
theorem waits_undergoAll {entries : List (Nat × CommandRequest)}
    (callsOpen : session.callsOpen = true) (holds : session.gate.Holds entries)
    (ran : session.undergoAll occurrences = .ok (last, received))
    (stillClosed : last.gate.ready = false) :
    ∃ more, last.gate.Holds (entries ++ more) ∧
      more.map Prod.snd = Occurrence.requests occurrences := by
  induction occurrences generalizing session received entries with
  | nil =>
      cases ran
      exact ⟨[], by simpa using holds, rfl⟩
  | cons occurrence rest inductionHypothesis =>
      obtain ⟨next, calls, later, undergone, ranRest, -⟩ := undergoAll_cons.mp ran
      have nextOpen := (same_of_undergo callsOpen undergone).2
      have nextClosed : next.gate.ready = false := by
        rw [← Bool.not_eq_true] at stillClosed ⊢
        exact fun isOpen => stillClosed ((ready_undergoAll nextOpen ranRest).mpr (.inl isOpen))
      obtain ⟨first, nextHolds, isFirst⟩ := waits_of_undergo callsOpen holds undergone nextClosed
      obtain ⟨others, lastHolds, areOthers⟩ := inductionHypothesis nextOpen nextHolds ranRest
      refine ⟨first ++ others, by rwa [← List.append_assoc], ?_⟩
      rw [List.map_append, isFirst, areOthers, ← Occurrence.requests_append]
      rfl

/-- What the next start lets through, if no request waited in front of the run. -/
theorem unlock_undergoAll (callsOpen : session.callsOpen = true) (holds : session.gate.Holds [])
    (ran : session.undergoAll occurrences = .ok (last, received)) :
    last.gate.unlock.2 = if last.gate.ready then []
      else (Occurrence.requests occurrences).map CommandRequest.call := by
  cases ready : last.gate.ready with
  | true => simp [Gate.unlock_open ready]
  | false =>
      obtain ⟨entries, lastHolds, areRequests⟩ := waits_undergoAll callsOpen holds ran ready
      obtain ⟨opened, unlocked, -, -⟩ := lastHolds.unlock_closed ready
      simp [unlocked, ← areRequests]

/-! ### The first run -/

/-- How often the first run comes: with each start of a desktop for which it is due. -/
def firstRuns (session : Session) (occurrences : List Occurrence) : Nat :=
  (session.visits occurrences).countP fun visit => visit.1.starts visit.2 && visit.1.firstRunDue

theorem firstRuns_cons (session : Session) (occurrence : Occurrence) (rest : List Occurrence) :
    session.firstRuns (occurrence :: rest) =
      (session.starts occurrence && session.firstRunDue).toNat +
        match session.undergo occurrence with
        | .ok (next, _) => next.firstRuns rest
        | .error _ => 0 := by
  unfold firstRuns
  rw [visits, List.countP_cons, Nat.add_comm]
  congr 1
  · cases session.starts occurrence && session.firstRunDue <;> rfl
  · cases session.undergo occurrence <;> rfl

/-- As long as the marker can be written and nobody else removes it, the first run comes at most
once, and only if it is due from the beginning. -/
theorem firstRuns_le (callsOpen : session.callsOpen = true)
    (writable : ∀ directory ∈ session.prefixDirectory, directory.writable = true)
    (notRemoved : .marker false ∉ occurrences) (notForbidden : .access false ∉ occurrences) :
    session.firstRuns occurrences ≤ session.firstRunDue.toNat := by
  induction occurrences generalizing session with
  | nil => exact Nat.zero_le _
  | cons occurrence rest inductionHypothesis =>
      have now : (session.starts occurrence && session.firstRunDue).toNat ≤
          session.firstRunDue.toNat := by
        cases session.starts occurrence <;> simp
      rw [firstRuns_cons]
      cases undergone : session.undergo occurrence with
      | error interruption => exact now
      | ok result =>
          obtain ⟨next, calls⟩ := result
          obtain ⟨stillWritable, due⟩ := due_of_undergo callsOpen writable
            (fun isThis => notRemoved (isThis ▸ List.mem_cons_self))
            (fun isThis => notForbidden (isThis ▸ List.mem_cons_self)) undergone
          have later := inductionHypothesis (same_of_undergo callsOpen undergone).2 stillWritable
            (fun member => notRemoved (List.mem_cons_of_mem _ member))
            (fun member => notForbidden (List.mem_cons_of_mem _ member))
          cases nextDue : next.firstRunDue with
          | true =>
              obtain ⟨wasDue, noStart⟩ := due nextDue
              simpa [nextDue, wasDue, noStart] using later
          | false =>
              simp only [nextDue, Bool.toNat_false, Nat.le_zero] at later
              simpa only [later, Nat.add_zero] using now

/-! ### The desktop -/

theorem forest_undergoAll (forest : session.tree.Forest)
    (ran : session.undergoAll occurrences = .ok (last, received)) : last.tree.Forest :=
  undergoAll_preserves (motive := fun session => session.tree.Forest)
    (fun _ _ _ _ _ kept undergone => forest_of_undergo kept undergone) forest ran

theorem desktop_undergoAll (forest : session.tree.Forest)
    (isDesktop : session.tree.desktop = some window)
    (notDestroyed : .task (.manager (.destroyWindow window)) ∉ occurrences)
    (ran : session.undergoAll occurrences = .ok (last, received)) :
    last.tree.desktop = some window := by
  refine (undergoAll_preserves
    (motive := fun session => session.tree.Forest ∧ session.tree.desktop = some window) ?_
    ⟨forest, isDesktop⟩ ran).2
  rintro occurrence member before next calls ⟨kept, registered⟩ undergone
  exact ⟨forest_of_undergo kept undergone,
    desktop_of_undergo kept registered (fun isThis => notDestroyed (isThis ▸ member)) undergone⟩

/-- Between two starts the first desktop is removed. -/
theorem destroyed_of_starts_again (forest : session.tree.Forest)
    (callsOpen : session.callsOpen = true) {scalingCode : UInt32} {between : List Occurrence}
    (starts : session.startsDesktop (.manager (.createDesktop window scalingCode)) = true)
    (ran : session.undergoAll (.task (.manager (.createDesktop window scalingCode)) :: between) =
      .ok (last, received)) (again : last.starts occurrence = true) :
    .task (.manager (.destroyWindow window)) ∈ between := by
  obtain ⟨next, calls, later, undergone, ranBetween, -⟩ := undergoAll_cons.mp ran
  obtain ⟨begun, isBegun, registered⟩ := undergo_of_starts callsOpen starts
  cases undergone.symm.trans isBegun
  by_contra notDestroyed
  have stays :=
    desktop_undergoAll (forest_of_undergo forest undergone) registered notDestroyed ranBetween
  cases (desktop_eq_none_of_starts (forest_undergoAll forest ran) again).symm.trans stays

/-! ## The startup of a run -/

/-- In every run of a fresh session, also an interrupted one, no command is received in front of the
first configuration. Unless somebody else removes the marker or it cannot be written, the first run
comes at most once. Behind a run the gate is open if and only if a desktop was started. A start then
sends the configuration; if it is the first one, the requests so far in the order of their arrival;
and if there is a prefix directory without marker, the first-run commands. Another start has the
last desktop removed in front of it. Anything but a start runs at most the command that it asks
for, and none as long as the gate is closed. -/
theorem startup_sequence (config : Config) (directory : Option PrefixDirectory)
    (occurrences : List Occurrence) :
    Call.ConfiguredFirst (sentBy Prod.snd ((fresh config directory).undergoAll occurrences)) ∧
    ((∀ place ∈ directory, place.writable = true) →
      .marker false ∉ occurrences → .access false ∉ occurrences →
        (fresh config directory).firstRuns occurrences ≤ 1) ∧
    ∀ session received, (fresh config directory).undergoAll occurrences = .ok (session, received) →
      (session.gate.ready = true ↔
        ∃ visit ∈ (fresh config directory).visits occurrences, visit.1.starts visit.2 = true) ∧
      (∀ window scalingCode,
        session.startsDesktop (.manager (.createDesktop window scalingCode)) = true →
          ∃ next, session.undergo (.task (.manager (.createDesktop window scalingCode))) =
            .ok (next, .configChanged (scaling config.display.startupDpi scalingCode).2 ::
              ((if session.gate.ready then []
                else (Occurrence.requests occurrences).map CommandRequest.call) ++
              if session.firstRunDue then
                (config.startup.firstRunCommands.filter (!·.isEmpty)).map (.runCommandArray · none)
              else []))) ∧
      (∀ earlier begun sent window scalingCode between again,
        occurrences = earlier ++ .task (.manager (.createDesktop window scalingCode)) :: between →
        (fresh config directory).undergoAll earlier = .ok (begun, sent) →
        begun.startsDesktop (.manager (.createDesktop window scalingCode)) = true →
        session.starts again = true → .task (.manager (.destroyWindow window)) ∈ between) ∧
      ∀ occurrence, session.starts occurrence = false →
        (sentBy Prod.snd (session.undergo occurrence)).filter (·.isCommand) =
          if session.gate.ready then (Occurrence.requests [occurrence]).map CommandRequest.call
          else [] := by
  refine ⟨configuredFirst_undergoAll rfl rfl occurrences, ?_, ?_⟩
  · intro writable notRemoved notForbidden
    have callsOpen : (fresh config directory).callsOpen = true := rfl
    exact Nat.le_trans (firstRuns_le callsOpen writable notRemoved notForbidden) (Bool.toNat_le _)
  · intro session received ran
    obtain ⟨sameConfig, callsOpen⟩ := same_undergoAll rfl ran
    refine ⟨(ready_undergoAll rfl ran).trans (by simp [fresh]), ?_, ?_, ?_⟩
    · intro window scalingCode starts
      obtain ⟨next, undergone, -⟩ := undergo_of_starts callsOpen starts
      rw [unlock_undergoAll rfl Gate.holds_fresh ran, firstRunCalls, sameConfig] at undergone
      exact ⟨next, undergone⟩
    · intro earlier begun sent window scalingCode between again isSplit ranEarlier starts
        startsAgain
      rw [isSplit] at ran
      obtain ⟨middle, rest, ranMiddle, ranRest⟩ := undergoAll_append ran
      cases ranEarlier.symm.trans ranMiddle
      exact destroyed_of_starts_again (forest_undergoAll (forest_fresh config directory) ranEarlier)
        (same_undergoAll rfl ranEarlier).2 starts ranRest startsAgain
    · exact fun occurrence noStart => commands_of_undergo callsOpen noStart

/-- A run comes to its end, at a session that passes a test. -/
def completes (session : Session) (occurrences : List Occurrence) (test : Session → Bool) : Bool :=
  match session.undergoAll occurrences with
  | .ok (last, _) => test last
  | .error _ => false

theorem exists_of_completes {test : Session → Bool}
    (completes : session.completes occurrences test = true) :
    ∃ last received, session.undergoAll occurrences = .ok (last, received) ∧ test last = true := by
  unfold Session.completes at completes
  split at completes
  · next last received ran => exact ⟨last, received, ran, completes⟩
  · cases completes

/-- A start of a desktop comes next, at a gate and a prefix directory like these. -/
def startsNext (session : Session) (window : WindowId) (scalingCode : UInt32) (ready due : Bool) :
    Bool :=
  session.startsDesktop (.manager (.createDesktop window scalingCode)) ∧
    session.gate.ready = ready ∧ session.firstRunDue = due

/-- A session with one first-run command, behind a blank one, and a prefix directory without
marker. -/
def firstStart : Session :=
  fresh { startup := { firstRunCommands := [[], ["wineboot", "-u"]] } } (some ⟨false, true⟩)

/-- Two requests in front of the first desktop. -/
def queuedRun : List Occurrence :=
  [.submission (.line "notepad" none), .task (.shell (.runCommandArray ["winecfg"] none))]

/-- The first desktop is removed again. -/
def startedRun : List Occurrence :=
  queuedRun ++ [.task (.manager (.createDesktop 32 0)), .task (.manager (.destroyWindow 32))]

theorem startup_sequence_of_two_desktops :
    firstStart.firstRuns startedRun ≤ 1 ∧
    ∃ session received next, firstStart.undergoAll queuedRun = .ok (session, received) ∧
      session.startsDesktop (.manager (.createDesktop 32 0)) = true ∧
      session.undergo (.task (.manager (.createDesktop 32 0))) =
        .ok (next, [.configChanged 160, .runCommandLine "notepad" none,
          .runCommandArray ["winecfg"] none, .runCommandArray ["wineboot", "-u"] none]) ∧
      ∃ again receivedAgain nextAgain,
        firstStart.undergoAll startedRun = .ok (again, receivedAgain) ∧
        again.startsDesktop (.manager (.createDesktop 33 1)) = true ∧
        again.undergo (.task (.manager (.createDesktop 33 1))) =
          .ok (nextAgain, [.configChanged 96]) ∧
        Occurrence.task (.manager (.destroyWindow 32)) ∈
          [Occurrence.task (.manager (.destroyWindow 32))] ∧
        (sentBy Prod.snd (again.undergo (.submission (.line "regedit" none)))).filter
          (·.isCommand) = [.runCommandLine "regedit" none] := by
  have queued : firstStart.completes queuedRun (·.startsNext 32 0 false true) = true := by
    decide +kernel
  have started : firstStart.completes startedRun (·.startsNext 33 1 true false) = true := by
    decide +kernel
  obtain ⟨session, received, ran, passed⟩ := exists_of_completes queued
  obtain ⟨starts, closed, due⟩ := of_decide_eq_true passed
  obtain ⟨again, receivedAgain, ranAgain, passedAgain⟩ := exists_of_completes started
  obtain ⟨startsAgain, isOpen, notDue⟩ := of_decide_eq_true passedAgain
  obtain ⟨-, -, first⟩ := startup_sequence _ _ queuedRun
  obtain ⟨-, once, second⟩ := startup_sequence _ _ startedRun
  obtain ⟨-, sends, -, -⟩ := first session received ran
  obtain ⟨-, sendsAgain, destroyed, alone⟩ := second again receivedAgain ranAgain
  obtain ⟨next, undergone⟩ := sends 32 0 starts
  obtain ⟨nextAgain, undergoneAgain⟩ := sendsAgain 33 1 startsAgain
  rw [closed, due] at undergone
  rw [isOpen, notDue] at undergoneAgain
  have regedit := alone (.submission (.line "regedit" none)) rfl
  rw [isOpen] at regedit
  exact ⟨once (by simp) (by decide) (by decide), session, received, next, ran, starts, undergone,
    again, receivedAgain, nextAgain, ranAgain, startsAgain, undergoneAgain,
    destroyed queuedRun session received 32 0 _ (.task (.manager (.createDesktop 33 1))) rfl ran
      starts startsAgain, regedit⟩

end Session

end WindowRelay
