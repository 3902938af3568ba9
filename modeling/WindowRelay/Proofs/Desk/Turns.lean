import WindowRelay.Proofs.Desk.Spares

/-!
Contract: what one event does to one window, in the tree and in the host together.

Owns:
- the turns: the portrait of a window and the face of its views before and after an event;
- every accepted event gives each window with views that stays a turn;
- every new window begins with freshly built views and without backings.

The turns are all that an event can do to a window with views, so an invariant of single windows is
preserved by every event as soon as the turns preserve it and freshly built views satisfy it. The
desktop window is left out: it gets views only as a parent of others.
-/

namespace WindowRelay

/-- Events that start accelerated rendering of a live window. -/
def TreeEvent.accelerates (id : WindowId) : TreeEvent → Bool
  | startAccelerated target => id == target
  | create target _ _ accelerated _ => id == target && accelerated
  | _ => false

/-- What an event makes of the portrait and the face of a window. -/
inductive Turn (id : WindowId) (node : Node) (face : View) : TreeEvent → Node → View → Prop where
  | spared {event : TreeEvent} (away : event.touches id = false) : Turn id node face event node face
  | accelerated {event : TreeEvent} (starts : event.accelerates id = true) :
      Turn id node face event { node with accelerated := true }
        { face with clientContent := true, clientLayout := Layout.kickoff }
  | placed {placement : Placement} {whole client : Rect}
      (places : (node.placed placement).Places whole)
      (isClient : (node.placed placement).clientLayout >>= Layout.padded = .ok client) :
      Turn id node face (.position id placement) (node.placed placement)
        { face with wholeLayout := whole, clientLayout := client }
  | stayed (parent : WindowId) (scale : Binary32) :
      Turn id node face (.reparent id parent scale) node face
  | moved {parent : WindowId} (scale : Binary32) {whole : Rect} (isChild : node.kind = .child)
      (isWhole : Layout.padded node.visibleRect = .ok whole) :
      Turn id node face (.reparent id parent scale) { node with parent := some parent }
        { face with wholeLayout := whole }
  | rebuilt {parent : WindowId} {scale : Binary32} {after : Node} {built : View}
      (switches : after.isTopLevel = !node.isTopLevel)
      (sameMode : after.accelerated = node.accelerated) (unbound : after.surfaces = {})
      (builds : after.Builds built) :
      Turn id node face (.reparent id parent scale) after built
  | backedWhole {handle : Surface.Handle} {whole : Rect}
      (isWhole : (if node.isTopLevel && !node.visible && node.surfaces.whole.isNone then
          Layout.offscreen node.visibleRect false else .ok face.wholeLayout) = .ok whole) :
      Turn id node face (.surfaceAvailable id .whole handle)
        { node with surfaces := (node.surfaces.bind .whole handle).1 }
        { face with wholeLayout := whole }
  | backedClient {handle : Surface.Handle} {client : Rect}
      (isClient : (if node.surfaces.client = some handle then .ok face.clientLayout
          else node.clientLayout >>= Layout.padded) = .ok client) :
      Turn id node face (.surfaceAvailable id .client handle)
        { node with surfaces := (node.surfaces.bind .client handle).1 }
        { face with clientLayout := client }
  | released (kind : Surface.Kind) :
      Turn id node face (.surfaceDestroyed id kind)
        { node with surfaces := (node.surfaces.release kind).1 } face

namespace Tree

open Scene

variable {tree : Tree} {id parent : WindowId} {node : Node} {change : Change}
  {hasViews : WindowId → Bool} {face : View} {after : Node} {event : TreeEvent}

/-! ## The window that an event is about -/

/-- The portrait and the face that a change leaves are those of a turn. -/
def Turns (tree : Tree) (id : WindowId) (face : View) (event : TreeEvent) (change : Change) :
    Prop :=
  ∀ node after, tree.portrait? id = some node → change.tree.portrait? id = some after →
    ∃ built, faceAfter id (some face) change.commands = some built ∧
      Turn id node face event after built

theorem Spares.turns (spares : Spares tree hasViews change id) (isHosted : hasViews id = true)
    (away : event.touches id = false) :
    Turns tree id face event change := by
  intro node after found stays
  rw [spares.portrait, found] at stays
  cases stays
  exact ⟨face, spares.face isHosted (some face), .spared away⟩

theorem turns_accelerate (starts : event.accelerates id = true) :
    Turns tree id face event (tree.accelerate id) := by
  intro node after found stays
  rw [portrait?_accelerate, if_pos rfl, found] at stays
  cases stays
  exact ⟨_, faceAfter_clientContent id face, .accelerated starts⟩

theorem turns_surfaceDestroyed {kind : Surface.Kind}
    (accepted : tree.surfaceDestroyed id kind = .ok change) :
    Turns tree id face (.surfaceDestroyed id kind) change := by
  obtain ⟨node, found, rfl⟩ := surfaceDestroyed_eq_ok accepted
  intro portrait after isPortrait stays
  rw [portrait?_of_node? found] at isPortrait
  rw [portrait?_setSurfaces, if_pos rfl, portrait?_of_node? found] at stays
  cases isPortrait
  cases stays
  exact ⟨face, rfl, .released kind⟩

/-- The backing of the whole content parks a bare hidden top-level window. -/
theorem exists_faceAfter_backedWhole {parking restoring : List Scene.Command}
    {outcome : Surface.Outcome} (parked : parkingCommands node .whole = .ok parking)
    (restored : restoringCommands node .whole outcome = .ok restoring) (face : View) :
    ∃ whole, faceAfter node.id (some face) (parking ++ restoring) =
        some { face with wholeLayout := whole } ∧
      (if node.isTopLevel && !node.visible && node.surfaces.whole.isNone then
        Layout.offscreen node.visibleRect false else .ok face.wholeLayout) = .ok whole := by
  have nothing : restoring = [] := by
    rcases restoringCommands_eq_ok restored with ⟨restores, -⟩ | ⟨-, nothing⟩
    · simp at restores
    · exact nothing
  subst nothing
  rcases parkingCommands_eq_ok parked with ⟨parks, place, isPlace, rfl⟩ | ⟨stays, rfl⟩
  · refine ⟨place, by simp [Command.onFace, View.setLayout], ?_⟩
    exact (if_pos (by simpa using parks)).trans isPlace
  · refine ⟨face.wholeLayout, rfl, if_neg ?_⟩
    rw [Bool.not_eq_true]
    simpa using stays

/-- Another backing of the client content brings its real layout. -/
theorem exists_faceAfter_backedClient {parking restoring : List Scene.Command}
    {handle : Surface.Handle} (parked : parkingCommands node .client = .ok parking)
    (restored : restoringCommands node .client (node.surfaces.bind .client handle).2 =
      .ok restoring) (face : View) :
    ∃ client, faceAfter node.id (some face) (parking ++ restoring) =
        some { face with clientLayout := client } ∧
      (if node.surfaces.client = some handle then .ok face.clientLayout
        else node.clientLayout >>= Layout.padded) = .ok client := by
  have nothing : parking = [] := by
    rcases parkingCommands_eq_ok parked with ⟨parks, -⟩ | ⟨-, nothing⟩
    · simp at parks
    · exact nothing
  subst nothing
  by_cases known : node.surfaces.client = some handle
  · have unchanged : (node.surfaces.bind .client handle).2 = .unchanged := by
      simp [Surface.Slots.bind, Surface.Slots.get, known]
    rw [unchanged] at restored
    cases restored
    exact ⟨face.clientLayout, rfl, if_pos known⟩
  · have fresh : (node.surfaces.bind .client handle).2 = .fresh := by
      simp [Surface.Slots.bind, Surface.Slots.get, known]
    rw [fresh] at restored
    rcases restoringCommands_eq_ok restored with ⟨-, client, isClient, rfl⟩ | ⟨never, -⟩
    · exact ⟨client, by simp [Command.onFace, View.setLayout], (if_neg known).trans isClient⟩
    · simp at never

theorem turns_surfaceAvailable (forest : tree.Forest) {kind : Surface.Kind}
    {handle : Surface.Handle} (accepted : tree.surfaceAvailable id kind handle = .ok change) :
    Turns tree id face (.surfaceAvailable id kind handle) change := by
  obtain ⟨node, parking, restoring, found, parked, restored, rfl⟩ := surfaceAvailable_eq_ok accepted
  have own : node.id = id := forest.stored id node found
  subst own
  intro portrait after isPortrait stays
  rw [portrait?_of_node? found] at isPortrait
  rw [portrait?_setSurfaces, if_pos rfl, portrait?_of_node? found] at stays
  cases isPortrait
  cases stays
  cases kind with
  | whole =>
      obtain ⟨whole, isFace, isWhole⟩ := exists_faceAfter_backedWhole parked restored face
      refine ⟨_, isFace, .backedWhole ?_⟩
      rw [Node.isTopLevel_portrait, Node.visible_portrait, Node.surfaces_portrait]
      exact isWhole
  | client =>
      obtain ⟨client, isFace, isClient⟩ := exists_faceAfter_backedClient parked restored face
      exact ⟨_, isFace, .backedClient isClient⟩

theorem portrait?_store_self (found : tree.node? id = some node) (placement : Placement) :
    (tree.store id placement).portrait? id = some (node.placed placement).portrait := by
  rw [portrait?_store, if_pos rfl, portrait?_of_node? found]
  rfl

theorem turns_positionTopLevel (found : tree.node? node.id = some node) {flag : Bool}
    (kindIs : node.kind = .topLevel flag) {placement : Placement}
    (positioned : tree.positionTopLevel node placement = .ok change) :
    Turns tree node.id face (.position node.id placement) change := by
  obtain ⟨stacked, whole, footprint, notices, stacking, isWhole, isClient, rfl⟩ :=
    positionTopLevel_eq_ok positioned
  intro portrait after isPortrait stays
  cases (portrait?_of_node? found).symm.trans isPortrait
  have stored : stacked.portrait? node.id = some (node.placed placement).portrait := by
    rcases stacking with ⟨-, directive, rfl⟩ | ⟨-, rfl⟩
    · exact (portrait?_place _ node.id node.id directive).trans (portrait?_store_self found _)
    · exact portrait?_store_self found placement
  cases stored.symm.trans stays
  have places : (node.placed placement).Places whole :=
    ⟨fun _ => isWhole, fun isChild => by simp [Node.placed, kindIs] at isChild⟩
  have aligning : subjects (if (placement.reorders ||
      node.visible != (node.placed placement).visible ||
      node.minimized != (node.placed placement).minimized) = true then
        [stacked.alignDesktopCommand] else []) = [] := by
    split <;> simp [alignDesktopCommand, Command.subject?]
  refine ⟨{ face with wholeLayout := whole, clientLayout := footprint }, ?_,
    .placed places.portrait isClient⟩
  simp only [Change.announcing, faceAfter_append, faceAfter_of_mute aligning,
    faceAfter_of_mute (subjects_announceCommands stacked),
    faceAfter_of_mute (subjects_focusCommands node.id node.visible _)]
  simp [Command.onFace, View.setLayout]

theorem turns_positionChild (found : tree.node? node.id = some node) (isChild : node.kind = .child)
    (isHosted : hasViews node.id = true) {placement : Placement}
    (positioned : tree.positionChild hasViews node placement = .ok change) :
    Turns tree node.id face (.position node.id placement) change := by
  obtain ⟨stacked, commands, notices, stacking, -, hosted, rfl⟩ := positionChild_eq_ok positioned
  obtain ⟨whole, footprint, isWhole, isClient, rfl⟩ := hosted isHosted
  intro portrait after isPortrait stays
  cases (portrait?_of_node? found).symm.trans isPortrait
  have stored : stacked.portrait? node.id = some (node.placed placement).portrait := by
    rcases stacking with ⟨rfl, -⟩ | ⟨-, parent, -, rfl⟩
    · exact portrait?_store_self found placement
    · exact (portrait?_restackedUnder _ node.id node.id parent _).trans
        (portrait?_store_self found placement)
  cases stored.symm.trans stays
  have childAfter : (node.placed placement).kind = .child := isChild
  have notTopLevel := Bool.not_eq_true _ ▸ Node.isTopLevel_eq_false_of_child childAfter
  dsimp only
  cases parentIs : node.parent with
  | none =>
      have places : (node.placed placement).Places face.wholeLayout :=
        ⟨fun isTopLevel => absurd isTopLevel notTopLevel,
          fun _ hasParent => by simp [Node.placed, parentIs] at hasParent⟩
      refine ⟨_, ?_, .placed places.portrait isClient⟩
      simp [Command.onFace, View.setLayout]
  | some parent =>
      have places : (node.placed placement).Places whole :=
        ⟨fun isTopLevel => absurd isTopLevel notTopLevel,
          fun _ _ => isWhole (by simp [parentIs])⟩
      refine ⟨_, ?_, .placed places.portrait isClient⟩
      simp only [faceAfter_append, faceAfter_cons,
        faceAfter_of_mute (subjects_childViewCommands stacked node.id parent _ _ _)]
      simp [Command.onFace, View.setLayout]

theorem turns_position (forest : tree.Forest) (isHosted : hasViews id = true)
    (notDesktop : tree.kind? id ≠ some .desktop) {placement : Placement}
    (positioned : tree.position hasViews id placement = .ok change) :
    Turns tree id face (.position id placement) change := by
  obtain ⟨node, found, kinds⟩ := position_eq_ok positioned
  have own : node.id = id := forest.stored id node found
  subst own
  rcases kinds with ⟨isDesktop, -⟩ | ⟨⟨flag, kindIs⟩, topLevel⟩ | ⟨isChild, child⟩
  · exact absurd (isDesktop ▸ kind?_of_node? found) notDesktop
  · exact turns_positionTopLevel found kindIs topLevel
  · exact turns_positionChild found isChild isHosted child

/-- The views of a window are taken away and built again for another kind of window. -/
theorem exists_turn_of_rebuild {after : Tree} (portrait : Node) {relocated : Node}
    {taking views : List Scene.Command} (stored : after.portrait? id = some relocated)
    (taken : faceAfter id (some face) taking = none)
    (built : ∃ plain, faceAfter id none views = some plain ∧
      Node.Builds { relocated with accelerated := false } plain)
    (switches : relocated.isTopLevel = !portrait.isTopLevel)
    (sameMode : relocated.accelerated = portrait.accelerated) (unbound : relocated.surfaces = {})
    (parent : WindowId) (scale : Binary32) :
    ∃ last, faceAfter id (some face)
        (taking ++ views ++ after.rebuiltCommands id ++ after.announceCommands) = some last ∧
      Turn id portrait face (.reparent id parent scale) relocated last := by
  obtain ⟨plain, isPlain, plainBuilds⟩ := built
  obtain ⟨last, isLast, builds⟩ := exists_faceAfter_rebuilt stored plainBuilds
  refine ⟨last, ?_, .rebuilt switches sameMode unbound builds⟩
  rw [faceAfter_append, faceAfter_append, faceAfter_append, taken, isPlain, isLast]
  exact faceAfter_of_mute (subjects_announceCommands after) _

theorem turns_promote (found : tree.node? node.id = some node) (isChild : node.kind = .child)
    {scale : Binary32} (promoted : tree.promote node = .ok change) :
    Turns tree node.id face (.reparent node.id parent scale) change := by
  obtain ⟨views, computed, rfl⟩ := promote_eq_ok promoted
  intro portrait after isPortrait stays
  cases (portrait?_of_node? found).symm.trans isPortrait
  have stored : (tree.promoted node.id).portrait? node.id =
      some (node.portrait.relocated (.topLevel false) none) := by
    rw [portrait?_promoted, if_pos rfl, isPortrait]
    rfl
  cases stored.symm.trans stays
  have notTopLevel := Node.isTopLevel_eq_false_of_child isChild
  have switches : (node.portrait.relocated (.topLevel false) none).isTopLevel =
      !node.portrait.isTopLevel := by
    rw [Node.isTopLevel_portrait, notTopLevel]
    rfl
  refine exists_turn_of_rebuild node.portrait stored ?_ ?_ switches rfl rfl parent scale
  · rw [faceAfter_append, faceAfter_of_mute (subjects_detachCommands tree node.id)]
    simp [Command.onFace]
  · obtain ⟨plain, isPlain, builds⟩ := exists_faceAfter_topLevelViews rfl computed
    exact ⟨plain, isPlain, builds.portrait⟩

theorem turns_demote (forest : tree.Forest) (found : tree.node? node.id = some node)
    (isTopLevel : node.isTopLevel = true) (admits : tree.Admits node.id parent) {scale : Binary32}
    (demoted : tree.demote hasViews node parent = .ok change) :
    Turns tree node.id face (.reparent node.id parent scale) change := by
  obtain ⟨views, computed, rfl⟩ := demote_eq_ok demoted
  intro portrait after isPortrait stays
  cases (portrait?_of_node? found).symm.trans isPortrait
  have stored : (tree.demoted node.id parent).portrait? node.id =
      some (node.portrait.relocated .child (some parent)) := by
    rw [portrait?_demoted, if_pos rfl, isPortrait]
    rfl
  cases stored.symm.trans stays
  refine exists_turn_of_rebuild node.portrait stored (by simp [Command.onFace]) ?_
    (by rw [Node.isTopLevel_portrait, isTopLevel]; rfl) rfl rfl parent scale
  have afterForest := forest.ofRehomed (rehomed_demoted forest found isTopLevel admits)
  obtain ⟨after, afterFound, same⟩ := Option.map_eq_some_iff.mp stored
  have isChild : after.kind = .child := by
    rw [← Node.portrait_kind_eq_child, same]
    rfl
  obtain ⟨plain, isPlain, builds⟩ :=
    exists_faceAfter_ensureViews afterForest afterFound isChild (by simp) computed
  have plainBuilds := builds.portrait
  refine ⟨plain, isPlain, ?_⟩
  rw [← same]
  exact plainBuilds

theorem turns_move (forest : tree.Forest) (found : tree.node? node.id = some node)
    (isChild : node.kind = .child) (admits : tree.Admits node.id parent)
    (isHosted : hasViews node.id = true) {scale : Binary32}
    (moved : tree.move hasViews node parent = .ok change) :
    Turns tree node.id face (.reparent node.id parent scale) change := by
  obtain ⟨above, here, computed, hereIs, rfl⟩ := move_eq_ok moved
  obtain ⟨whole, isWhole, rfl⟩ := hereIs isHosted
  intro portrait after isPortrait stays
  cases (portrait?_of_node? found).symm.trans isPortrait
  have stored : (tree.moved node.id parent).portrait? node.id = some
      { node.portrait with parent := some parent } := by
    rw [portrait?_moved, if_pos rfl, isPortrait]
    rfl
  cases stored.symm.trans stays
  refine ⟨_, ?_, .moved scale (node.portrait_kind_eq_child.mpr isChild) isWhole⟩
  have movedStored := (rehomed_moved forest found isChild admits).stored
  have detaching : subjects (if node.visible then tree.detachCommands node.id else []) = [] := by
    split <;> simp
  have attaching : subjects (if node.visible then
      (tree.moved node.id parent).attachCommands node.id else []) = [] := by
    split <;> simp
  rw [faceAfter_append, faceAfter_append, faceAfter_of_mute detaching,
    faceAfter_ensureViews_of_hosted movedStored isHosted computed, faceAfter_cons,
    faceAfter_of_mute attaching]
  simp [Command.onFace, View.setLayout]

theorem turns_reparent (forest : tree.Forest) (isHosted : hasViews id = true) {scale : Binary32}
    (reparented : tree.reparent hasViews id parent scale = .ok change) :
    Turns tree id face (.reparent id parent scale) change := by
  obtain ⟨node, first, found, notDesktop, rfl, moves⟩ := reparent_eq_ok reparented
  have own : node.id = id := forest.stored id node found
  subst own
  have turns : Turns tree node.id face (.reparent node.id parent scale) first := by
    rcases moves with rfl | ⟨hasParent, promoted⟩ | ⟨admits, isTopLevel, demoted⟩ |
      ⟨admits, notTopLevel, -, moved⟩
    · intro portrait after isPortrait stays
      cases isPortrait.symm.trans stays
      exact ⟨face, rfl, .stayed parent scale⟩
    · exact turns_promote found (isChild_of_parent forest found hasParent) promoted
    · exact turns_demote forest found isTopLevel admits demoted
    · have isChild := isChild_of_neither notDesktop notTopLevel
      exact turns_move forest found isChild admits isHosted moved
  intro portrait after isPortrait stays
  exact turns portrait after isPortrait
    ((portrait?_rescale first.tree node.id node.id scale).symm.trans stays)

theorem turns_create (live : tree.isLive id = true) {scale : Binary32} {accelerated : Bool}
    {process : UInt32}
    (created : tree.create hasViews id parent scale accelerated process = .ok change) :
    Turns tree id face (.create id parent scale accelerated process) change := by
  rcases create_eq_ok created with ⟨-, isAccelerated, rfl⟩ | ⟨dead, -⟩
  · exact turns_accelerate (by simp [TreeEvent.accelerates, isAccelerated])
  · exact absurd live dead

/-! ## New windows -/

/-- A new window has freshly built views and no backing. -/
def Begins (id : WindowId) (change : Change) : Prop :=
  ∃ node built, change.tree.portrait? id = some node ∧ node.surfaces = {} ∧
    faceAfter id none change.commands = some built ∧ node.Builds built

theorem begins_createTopLevel {scale : Binary32} {process : UInt32}
    (created : tree.createTopLevel id scale process = .ok change) : Begins id change := by
  obtain ⟨commands, views, rfl⟩ := createTopLevel_eq_ok created
  obtain ⟨built, isBuilt, builds⟩ := exists_faceAfter_topLevelViews rfl views
  refine ⟨_, built, ?_, rfl, isBuilt, builds.portrait⟩
  exact (portrait?_addNode tree id _).trans (if_pos rfl)

theorem begins_createChild (forest : tree.Forest) (dead : ¬ tree.isLive id = true)
    (notHosted : hasViews id = false) {target : Option WindowId}
    (detached : target = none → id = WindowId.messageOnly) {scale : Binary32} {process : UInt32}
    (created : tree.createChild hasViews id target scale process = .ok change) :
    Begins id change := by
  have rehomed := rehomed_createChild forest dead detached created
  obtain ⟨-, commands, views, rfl⟩ := createChild_eq_ok created
  have found : ((tree.awaiting target id).addNode (newNode id .child scale process target)).node?
      id = some (newNode id .child scale process target) := by
    rw [node?_addNode, if_pos rfl]
  obtain ⟨built, isBuilt, builds⟩ :=
    exists_faceAfter_ensureViews (forest.ofRehomed rehomed) found rfl notHosted views
  exact ⟨_, built, portrait?_of_node? found, rfl, isBuilt, builds.portrait⟩

theorem Begins.accelerate (begins : Begins id change) :
    Begins id (change.followedBy (·.accelerate id)) := by
  obtain ⟨node, built, isNode, unbound, isBuilt, builds⟩ := begins
  refine ⟨{ node with accelerated := true }, _, ?_, unbound, ?_, builds.accelerate⟩
  · rw [Change.followedBy, portrait?_accelerate, if_pos rfl, isNode]
    rfl
  · rw [Change.followedBy, faceAfter_append, isBuilt]
    exact faceAfter_clientContent id built

theorem begins_create (forest : tree.Forest) (dead : ¬ tree.isLive id = true)
    (notHosted : hasViews id = false) {scale : Binary32} {accelerated : Bool} {process : UInt32}
    (created : tree.create hasViews id parent scale accelerated process = .ok change) :
    Begins id change := by
  rcases create_eq_ok created with ⟨live, -⟩ | ⟨-, first, rfl, making⟩
  · exact absurd live dead
  · have begins : Begins id first := by
      rcases making with topLevel | ⟨target, detached, child⟩
      · exact begins_createTopLevel topLevel
      · exact begins_createChild forest dead notHosted detached child
    split
    · exact begins.accelerate
    · exact begins

/-! ## Every event -/

/-- What an accepted event makes of a window with views that stays. -/
theorem turns_of_change (forest : tree.Forest) (hosting : Hosting tree hasViews)
    (notDesktop : tree.kind? id ≠ some .desktop) (isHosted : hasViews id = true)
    (accepted : tree.change hasViews event = .ok change) :
    Turns tree id face event change := by
  cases touches : event.touches id with
  | false =>
      intro portrait after isPortrait stays
      have stillLive : change.tree.isLive id = true := by simp [isLive_eq_portrait?, stays]
      have spares := spares_of_change forest hosting (hosting.live id isHosted) accepted touches
        stillLive
      exact spares.turns isHosted touches portrait after isPortrait stays
  | true =>
      cases event with
      | create target parent scale accelerated process =>
          cases beq_iff_eq.mp touches
          exact turns_create (hosting.live id isHosted) accepted
      | startAccelerated target =>
          cases beq_iff_eq.mp touches
          rw [startAccelerated_eq_ok accepted]
          exact turns_accelerate (beq_self_eq_true id)
      | reparent target parent scale =>
          cases beq_iff_eq.mp touches
          exact turns_reparent forest isHosted accepted
      | position target placement =>
          cases beq_iff_eq.mp touches
          exact turns_position forest isHosted notDesktop accepted
      | surfaceAvailable target kind handle =>
          cases beq_iff_eq.mp touches
          exact turns_surfaceAvailable forest accepted
      | surfaceDestroyed target kind =>
          cases beq_iff_eq.mp touches
          exact turns_surfaceDestroyed accepted
      | createDesktop | destroy | focus | setText | setIcon | viewVisibility | activityStarted
      | activityStopped => cases touches

/-- A window that was not there before an accepted event begins with it, unless it is the desktop
window. -/
theorem begins_of_change (forest : tree.Forest) (hosting : Hosting tree hasViews)
    (dead : ¬ tree.isLive id = true) (accepted : tree.change hasViews event = .ok change)
    (lives : change.tree.isLive id = true) (notDesktop : change.tree.kind? id ≠ some .desktop) :
    (∃ parent scale accelerated process, event = .create id parent scale accelerated process) ∧
      Begins id change := by
  have noRecord : tree.record? id = none :=
    record?_eq_none_iff.mpr (node?_eq_none_of_not_isLive dead)
  have fate := fate_of_change forest accepted id
  rw [isLive_eq_record?] at lives
  generalize change.tree.record? id = after at fate lives
  cases fate with
  | kept => simp [noRecord] at lives
  | edited found => simp [noRecord] at found
  | went => cases lives
  | came creates isNew kind process =>
      cases event with
      | createDesktop target =>
          cases beq_iff_eq.mp creates
          obtain ⟨-, -, rfl⟩ := createDesktop_eq_ok accepted
          exact absurd ((kind?_addNode tree id _).trans (if_pos rfl)) notDesktop
      | create target parent scale accelerated process =>
          cases beq_iff_eq.mp creates
          have notHosted : hasViews id = false := by
            by_contra isHosted
            exact dead (hosting.live id (by simpa using isHosted))
          exact ⟨⟨parent, scale, accelerated, process, rfl⟩,
            begins_create forest dead notHosted accepted⟩
      | _ => cases creates

end Tree

end WindowRelay
