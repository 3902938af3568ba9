import WindowRelay.Proofs.Session.Desktop
import WindowRelay.Proofs.Since
import WindowRelay.Proofs.Tree.Refusals
import WindowRelay.Proofs.Tree.Stations

/-!
Contract: the identifier that stands for no window.

Owns:
- nobody has the absent window as its parent, and it is nothing but the desktop window;
- it becomes the desktop window when a desktop is started with its identifier, and stays until it is
  removed;
- apart from that it is no window, in no order and in no container.

Creation refuses this identifier, and as a parent it means none. Only the registration of the desktop
window does not ask for it.
-/

namespace WindowRelay

namespace Tree

variable {tree : Tree} {change : Change} {hasViews : WindowId → Bool} {event : TreeEvent}

/-- The absent window is nobody's parent, and nothing but the desktop window. -/
structure SparesAbsent (tree : Tree) : Prop where
  kind : ∀ kind, tree.kind? WindowId.absent = some kind → kind = .desktop
  parent : ∀ id, tree.parent? id ≠ some WindowId.absent

theorem sparesAbsent_empty : SparesAbsent {} where
  kind kind isKind := by cases isKind
  parent id link := by cases link

namespace SparesAbsent

theorem isLive_iff (spares : tree.SparesAbsent) (forest : tree.Forest) :
    tree.isLive WindowId.absent = true ↔ tree.desktop = some WindowId.absent := by
  rw [forest.desktop, isLive_eq_kind?, Option.isSome_iff_exists]
  constructor
  · rintro ⟨kind, isKind⟩
    exact spares.kind kind isKind ▸ isKind
  · exact fun isDesktop => ⟨_, isDesktop⟩

theorem parentless (spares : tree.SparesAbsent) (forest : tree.Forest) :
    tree.parent? WindowId.absent = none := by
  by_cases live : tree.isLive WindowId.absent = true
  · have isDesktop := (forest.desktop _).mp ((spares.isLive_iff forest).mp live)
    exact forest.anchored _ _ isDesktop (by simp)
  · exact parent?_eq_none_of_not_isLive live

theorem children_eq_nil (spares : tree.SparesAbsent) (forest : tree.Forest) :
    tree.children WindowId.absent = [] :=
  List.eq_nil_iff_forall_not_mem.mpr fun child member =>
    spares.parent child ((forest.links.linked child _).mpr member)

theorem not_mem_children (spares : tree.SparesAbsent) (forest : tree.Forest) (parent : WindowId) :
    WindowId.absent ∉ tree.children parent := fun member => by
  cases ((forest.links.linked _ parent).mpr member).symm.trans (spares.parentless forest)

theorem not_mem_order (spares : tree.SparesAbsent) (forest : tree.Forest) :
    WindowId.absent ∉ tree.order := fun member => by
  obtain ⟨flag, isTopLevel⟩ := (forest.listed _).mp member
  cases spares.kind _ isTopLevel

/-- The host holds the absent window nowhere. -/
theorem not_mem_container (spares : tree.SparesAbsent) (forest : tree.Forest) {scene : Scene}
    (shows : Shows tree scene) (container : Container) :
    WindowId.absent ∉ scene.children container := by
  cases container with
  | desktop => exact fun member => spares.not_mem_order forest (shows.inStep.sameWindows.subset member)
  | client parent =>
      rw [shows.mounted.lists]
      exact fun member => spares.not_mem_children forest parent (List.mem_of_mem_filter member)

/-- One event: no window comes under the absent one, and the absent one itself can only become the
desktop window. -/
theorem ofChange (spares : tree.SparesAbsent) (forest : tree.Forest)
    (accepted : tree.change hasViews event = .ok change) : change.tree.SparesAbsent where
  kind kind isKind := by
    have station := stationed_of_change forest accepted WindowId.absent
    rw [isKind] at station
    generalize change.tree.parent? WindowId.absent = parent at station
    generalize isAfter : some kind = after at station
    cases station with
    | kept => exact spares.kind kind isAfter.symm
    | registered => exact Option.some.inj isAfter
    | hosted _ named => exact absurd rfl named
    | born _ named => exact absurd rfl named
    | risen isChild => cases spares.kind _ isChild
    | restacked isTopLevel => cases spares.kind _ isTopLevel
    | went => cases isAfter
    | adopted live =>
        -- A live absent window is the desktop window, and that one does not move.
        have isDesktop := (spares.isLive_iff forest).mp live
        exact absurd (.inr (.inl isDesktop)) (not_refuses_of_change forest accepted)
  parent id link := by
    have station := stationed_of_change forest accepted id
    rw [link] at station
    generalize change.tree.kind? id = kind at station
    generalize isTarget : some WindowId.absent = target at station
    cases station with
    | kept => exact spares.parent id isTarget.symm
    | registered | hosted | risen | went => cases isTarget
    | born =>
        split at isTarget
        · cases isTarget
        · next named => exact named (Option.some.inj isTarget).symm
    | adopted _ named => exact named (Option.some.inj isTarget).symm
    | restacked => exact spares.parent id isTarget.symm

end SparesAbsent

end Tree

namespace Session

variable {config : Config} {directory : Option PrefixDirectory} {session : Session}
  {task : Task} {tasks : List Task} {reaction : Reaction}

/-- A desktop is asked for with the identifier of the absent window where there is none. -/
def RegistersAbsent (session : Session) (task : Task) : Prop :=
  session.tree.desktop = none ∧
    ∃ scalingCode, task = .manager (.createDesktop WindowId.absent scalingCode)

/-- The removal of the absent window is asked for. -/
def RemovesAbsent (_ : Session) (task : Task) : Prop :=
  task = .manager (.destroyWindow WindowId.absent)

/-- The sessions that some tasks lead to. -/
def Reaches (config : Config) (directory : Option PrefixDirectory) (tasks : List Task)
    (session : Session) : Prop :=
  (fresh config directory).dispatchAll tasks = .ok session

theorem sparesAbsent_of_dispatch (forest : session.tree.Forest)
    (spares : session.tree.SparesAbsent) (dispatched : session.dispatch task = .ok reaction) :
    reaction.session.tree.SparesAbsent := by
  refine dispatch_preserves_onForest (motive := Tree.SparesAbsent) forest ?_ ?_ spares dispatched
  · exact fun event _ tree hasViews change forest spares accepted => spares.ofChange forest accepted
  · exact fun tree scale spares => ⟨spares.kind, spares.parent⟩

/-- A task that does not ask for a desktop with this identifier makes no such desktop. -/
theorem desktop_ne_absent_of_dispatch (forest : session.tree.Forest)
    (notDesktop : session.tree.desktop ≠ some WindowId.absent)
    (otherTask : ∀ scalingCode, task ≠ .manager (.createDesktop WindowId.absent scalingCode))
    (dispatched : session.dispatch task = .ok reaction) :
    reaction.session.tree.desktop ≠ some WindowId.absent := by
  refine dispatch_preserves_onForest (motive := fun tree => tree.desktop ≠ some WindowId.absent)
    forest ?_ (fun _ _ kept => kept) notDesktop dispatched
  intro event member tree hasViews change forest notDesktop accepted isDesktop
  have station := Tree.stationed_of_change forest accepted WindowId.absent
  rw [((forest.ofChange accepted).desktop _).mp isDesktop] at station
  generalize change.tree.parent? WindowId.absent = parent at station
  generalize isAfter : some Node.Kind.desktop = after at station
  cases station with
  | kept => exact notDesktop ((forest.desktop _).mpr isAfter.symm)
  | registered =>
      obtain ⟨scalingCode, isThis⟩ := (Task.names_of_mem member).1 _ rfl
      exact otherTask scalingCode isThis
  | hosted | born | risen | adopted | restacked | went => cases isAfter

/-- The removal of the absent window leaves no such desktop. -/
theorem desktop_ne_absent_of_removal (forest : session.tree.Forest)
    (dispatched : session.dispatch (.manager (.destroyWindow WindowId.absent)) = .ok reaction) :
    reaction.session.tree.desktop ≠ some WindowId.absent := by
  have next := forest_of_dispatch forest dispatched
  cases dispatched
  have gone : (session.tree.destroy WindowId.absent).tree.kind? WindowId.absent = none := by
    rw [Tree.kind?_eq_record?, Tree.record?_destroy forest, if_pos (.inl rfl)]
    rfl
  intro isDesktop
  cases gone.symm.trans ((next.desktop _).mp isDesktop)

/-- A request for a desktop with this identifier is granted where there is no desktop. -/
theorem desktop_absent_of_request (agrees : session.Agrees) (spares : session.tree.SparesAbsent)
    {scalingCode : UInt32}
    (dispatched : session.dispatch (.manager (.createDesktop WindowId.absent scalingCode)) =
      .ok reaction) :
    reaction.session.tree.desktop = some WindowId.absent ↔
      session.tree.desktop = none ∨ session.tree.desktop = some WindowId.absent := by
  have created : session.createDesktop WindowId.absent scalingCode = .ok reaction := dispatched
  have vacant : session.desktopRefusal WindowId.absent = none ↔ session.tree.desktop = none := by
    have ordinary : WindowId.absent ≠ WindowId.messageOnly := by decide
    rw [desktopRefusal_eq_none_iff, spares.isLive_iff agrees.forest]
    exact ⟨And.left, fun noDesktop => ⟨noDesktop, by simp [noDesktop], ordinary⟩⟩
  cases refusal : session.desktopRefusal WindowId.absent with
  | none =>
      obtain ⟨started, createdToo, starts⟩ := agrees.desktopStarted refusal scalingCode
      cases created.symm.trans createdToo
      exact iff_of_true starts.desktop (.inl (vacant.mp refusal))
  | some error =>
      obtain ⟨dropped, createdToo, drops⟩ := agrees.desktopDropped refusal scalingCode
      cases created.symm.trans createdToo
      have taken : session.tree.desktop ≠ none := fun noDesktop => by
        cases (vacant.mpr noDesktop).symm.trans refusal
      rw [drops.desktop, or_iff_right taken]

/-- One task: the absent window is the desktop afterwards if the task makes it so, or if it was so
and the task does not remove it. -/
theorem desktop_absent_of_dispatch (agrees : session.Agrees) (spares : session.tree.SparesAbsent)
    (dispatched : session.dispatch task = .ok reaction) :
    reaction.session.tree.desktop = some WindowId.absent ↔
      session.RegistersAbsent task ∨
        (session.tree.desktop = some WindowId.absent ∧ ¬ session.RemovesAbsent task) := by
  by_cases asks : ∃ scalingCode, task = .manager (.createDesktop WindowId.absent scalingCode)
  · obtain ⟨scalingCode, rfl⟩ := asks
    rw [desktop_absent_of_request agrees spares dispatched]
    simp [RegistersAbsent, RemovesAbsent]
  · have notRegisters : ¬ session.RegistersAbsent task := fun registers => asks registers.2
    rw [or_iff_right notRegisters]
    constructor
    · intro isDesktop
      constructor
      · by_contra notDesktop
        exact desktop_ne_absent_of_dispatch agrees.forest notDesktop (not_exists.mp asks) dispatched
          isDesktop
      · rintro rfl
        exact desktop_ne_absent_of_removal agrees.forest dispatched isDesktop
    · rintro ⟨isDesktop, stays⟩
      exact desktop_of_undergo agrees.forest isDesktop
        (fun isRemoval => stays (Occurrence.task.inj isRemoval)) (undergo_of_dispatch dispatched)

theorem sparesAbsent_of_reaches (reaches : Reaches config directory tasks session) :
    session.Agrees ∧ session.tree.SparesAbsent :=
  dispatchAll_preserves (motive := fun session => session.Agrees ∧ session.tree.SparesAbsent)
    (fun _ _ _ ⟨agrees, spares⟩ dispatched =>
      ⟨agrees.dispatch dispatched, sparesAbsent_of_dispatch agrees.forest spares dispatched⟩)
    ⟨agrees_fresh config directory, Tree.sparesAbsent_empty⟩ reaches

/-- After every run the absent window is a window exactly if a desktop was started with its
identifier and not removed since, and then it is this desktop and has no children. In any case it is
nobody's parent, and it is in no list of children, not in the order, and in no container. -/
theorem absent_window_live_iff (reaches : Reaches config directory tasks session) :
    (session.tree.isLive WindowId.absent = true ↔
      Since (Reaches config directory) RegistersAbsent RemovesAbsent tasks) ∧
    (session.tree.isLive WindowId.absent = true →
      session.tree.desktop = some WindowId.absent ∧
        session.tree.parent? WindowId.absent = none ∧
        session.tree.children WindowId.absent = []) ∧
    (∀ id, session.tree.parent? id ≠ some WindowId.absent) ∧
    (∀ id, WindowId.absent ∉ session.tree.children id) ∧
    WindowId.absent ∉ session.tree.order ∧
    ∀ container, WindowId.absent ∉ session.scene.children container := by
  obtain ⟨agrees, spares⟩ := sparesAbsent_of_reaches reaches
  have forest := agrees.forest
  refine ⟨(spares.isLive_iff forest).trans ?_, fun live =>
    ⟨(spares.isLive_iff forest).mp live, spares.parentless forest, spares.children_eq_nil forest⟩,
    spares.parent, spares.not_mem_children forest, spares.not_mem_order forest,
    spares.not_mem_container forest agrees.shows⟩
  refine Since.iff_holds (Reaches config directory)
    (fun session => session.tree.desktop = some WindowId.absent) ?_ ?_ reaches
  · intro start began isDesktop
    cases began
    cases isDesktop
  · intro earlier task next reachesNext
    obtain ⟨middle, ran, ranLast⟩ := dispatchAll_append.mp reachesNext
    obtain ⟨reaction, dispatched, ended⟩ := dispatchAll_cons.mp ranLast
    cases ended
    obtain ⟨agrees, spares⟩ := sparesAbsent_of_reaches ran
    exact ⟨middle, ran, fun other ranToo => Except.ok.inj (ranToo.symm.trans ran),
      desktop_absent_of_dispatch agrees spares dispatched⟩

/-- A window with this identifier is refused, a desktop is started with it, and a window comes. -/
def absentRun : List Task :=
  [.manager (.createWindow WindowId.absent false WindowId.absent Binary32.one 7),
    .manager (.createDesktop WindowId.absent 0),
    .manager (.createWindow 48 false WindowId.absent Binary32.one 7)]

theorem absent_window_live_iff_after_absentRun :
    ∃ session, Reaches {} none absentRun session ∧
      session.tree.isLive WindowId.absent = true ∧
      Since (Reaches {} none) RegistersAbsent RemovesAbsent absentRun ∧
      session.tree.parent? 48 ≠ some WindowId.absent ∧ session.tree.isLive 48 = true := by
  have ends : ((fresh {} none).dispatchAll absentRun).map (fun last =>
      (last.tree.isLive WindowId.absent, last.tree.isLive 48)) = .ok (true, true) := by
    decide +kernel
  obtain ⟨session, ran, facts⟩ := map_eq_ok.mp ends
  obtain ⟨live, liveToo⟩ := Prod.mk.inj facts
  have reaches : Reaches {} none absentRun session := ran
  obtain ⟨liveIff, -, parents, -⟩ := absent_window_live_iff reaches
  exact ⟨session, reaches, live, liveIff.mp live, parents 48, liveToo⟩

/-- One request suffices to make the absent window the desktop window. -/
theorem absent_window_becomes_desktop :
    ∃ session,
      (fresh {} none).dispatchAll [.manager (.createDesktop WindowId.absent 0)] = .ok session ∧
      session.tree.isLive WindowId.absent = true ∧
      session.tree.desktop = some WindowId.absent := by
  have ends : ((fresh {} none).dispatchAll [.manager (.createDesktop WindowId.absent 0)]).map
      (fun last => (last.tree.isLive WindowId.absent, last.tree.desktop)) =
      .ok (true, some WindowId.absent) := by
    decide +kernel
  obtain ⟨session, ran, facts⟩ := map_eq_ok.mp ends
  exact ⟨session, ran, Prod.mk.inj facts⟩

end Session

end WindowRelay
