import WindowRelay.Proofs.Desk.Agreement
import WindowRelay.Proofs.Desk.Faces
import WindowRelay.Proofs.Tree.Evolution

/-!
Contract: windows that an event leaves alone, in the tree and in the host together.

Owns:
- the events that touch a window, its removal apart;
- an accepted event that does not touch a live window, and does not remove it, spares it.

The views of windows above are set up on the way, so the host part holds for windows that have
views.
-/

namespace WindowRelay

/-- Events that may change the rectangles, surfaces, rendering mode or views of a window. -/
def TreeEvent.touches (id : WindowId) : TreeEvent → Bool
  | create target .. | startAccelerated target | reparent target .. | position target _
  | surfaceAvailable target .. | surfaceDestroyed target _ => id == target
  | _ => false

namespace Tree

open Scene

variable {tree : Tree} {id parent : WindowId} {node : Node} {change : Change}
  {hasViews : WindowId → Bool}

/-- The change leaves a window alone: its portrait, and the face of its views if it has views. -/
structure Spares (tree : Tree) (hasViews : WindowId → Bool) (change : Change) (id : WindowId) :
    Prop where
  portrait : change.tree.portrait? id = tree.portrait? id
  face : hasViews id = true → ∀ face, faceAfter id face change.commands = face

theorem spares_of_notMem (portrait : change.tree.portrait? id = tree.portrait? id)
    (absent : id ∉ subjects change.commands) : Spares tree hasViews change id :=
  ⟨portrait, fun _ => faceAfter_of_notMem absent⟩

theorem spares_of_mute (portrait : change.tree.portrait? id = tree.portrait? id)
    (mute : subjects change.commands = []) : Spares tree hasViews change id :=
  ⟨portrait, fun _ => faceAfter_of_mute mute⟩

theorem Spares.announcing (spares : Spares tree hasViews change id) :
    Spares tree hasViews change.announcing id where
  portrait := spares.portrait
  face isHosted face := by
    rw [Change.announcing, faceAfter_append, spares.face isHosted]
    exact faceAfter_of_mute (subjects_announceCommands change.tree) face

theorem Spares.announcingIf (spares : Spares tree hasViews change id) (topLevel : Bool) :
    Spares tree hasViews (announcingIf topLevel change) id := by
  unfold Tree.announcingIf
  split
  · exact spares.announcing
  · exact spares

theorem Spares.followedBy (spares : Spares tree hasViews change id) {next : Tree → Change}
    (later : Spares change.tree hasViews (next change.tree) id) :
    Spares tree hasViews (change.followedBy next) id where
  portrait := later.portrait.trans spares.portrait
  face isHosted face := by
    rw [Change.followedBy, faceAfter_append, spares.face isHosted, later.face isHosted]

theorem spares_accelerate {target : WindowId} (different : id ≠ target) :
    Spares tree hasViews (tree.accelerate target) id :=
  spares_of_notMem (by rw [portrait?_accelerate, if_neg different])
    (notMem_subjects_clientContent target different)

theorem spares_createTopLevel {target : WindowId} (different : id ≠ target) {scale : Binary32}
    {process : UInt32} (created : tree.createTopLevel target scale process = .ok change) :
    Spares tree hasViews change id := by
  obtain ⟨commands, views, rfl⟩ := createTopLevel_eq_ok created
  refine spares_of_notMem ?_ (notMem_subjects_topLevelViews views different)
  show (tree.addNode _).portrait? id = _
  rw [portrait?_addNode, if_neg different]

theorem spares_createChild (forest : tree.Forest) {target : WindowId} (different : id ≠ target)
    {parent : Option WindowId} {scale : Binary32} {process : UInt32}
    (created : tree.createChild hasViews target parent scale process = .ok change) :
    Spares tree hasViews change id := by
  obtain ⟨-, commands, views, rfl⟩ := createChild_eq_ok created
  refine ⟨?_, fun isHosted => faceAfter_ensureViews_of_hosted ?_ isHosted views⟩
  · rw [portrait?_addNode, if_neg different, portrait?_awaiting]
  · exact (forest.stored.awaiting parent target).addNode _

theorem spares_create (forest : tree.Forest) {target : WindowId}
    (different : id ≠ target) {scale : Binary32} {accelerated : Bool} {process : UInt32}
    (created : tree.create hasViews target parent scale accelerated process = .ok change) :
    Spares tree hasViews change id := by
  rcases create_eq_ok created with ⟨-, -, rfl⟩ | ⟨-, first, rfl, making⟩
  · exact spares_accelerate different
  · have added : Spares tree hasViews first id := by
      rcases making with topLevel | ⟨above, -, child⟩
      · exact spares_createTopLevel different topLevel
      · exact spares_createChild forest different child
    split
    · exact added.followedBy (spares_accelerate different)
    · exact added

theorem spares_destroyOne {window : WindowId} (different : id ≠ window) :
    Spares tree hasViews (tree.destroyOne window) id := by
  refine spares_of_notMem (portrait?_destroyOne tree different) ?_
  unfold destroyOne
  split
  · simp
  · next node found =>
      cases node.kind <;> simp [Change.announcing, Command.subject?, different]

theorem spares_destroy (forest : tree.Forest) (root : WindowId)
    (stays : (tree.destroy root).tree.isLive id = true) :
    Spares tree hasViews (tree.destroy root) id := by
  refine destroy_induction forest
    (motive := fun change => change.tree.isLive id = true → Spares tree hasViews change id) root
    (fun _ => spares_of_mute rfl rfl) ?_ stays
  intro change window changeForest live childless spares laterLive
  have rehomed := rehomed_destroyOne changeForest live childless
  have different : id ≠ window := fun isWindow => by
    rw [Change.followedBy, isLive_eq_kind?, rehomed.kinds, if_pos isWindow] at laterLive
    cases laterLive
  have wasLive : change.tree.isLive id = true :=
    (rehomed.isLive_of_ne different).symm.trans laterLive
  exact (spares wasLive).followedBy (spares_destroyOne different)

theorem spares_rescale (spares : Spares tree hasViews change id) (root : WindowId)
    (scale : Binary32) :
    Spares tree hasViews { change with tree := change.tree.rescale root scale } id :=
  ⟨(portrait?_rescale change.tree root id scale).trans spares.portrait, spares.face⟩

theorem spares_demote (forest : tree.Forest)
    (found : tree.node? node.id = some node) (isTopLevel : node.isTopLevel = true)
    (admits : tree.Admits node.id parent) (different : id ≠ node.id)
    (demoted : tree.demote hasViews node parent = .ok change) : Spares tree hasViews change id := by
  obtain ⟨views, computed, rfl⟩ := demote_eq_ok demoted
  have stored := (rehomed_demoted forest found isTopLevel admits).stored
  refine Spares.announcing ⟨by rw [portrait?_demoted, if_neg different], fun isHosted face => ?_⟩
  rw [faceAfter_append, faceAfter_append,
    faceAfter_of_notMem (notMem_subjects_rebuilt _ node.id different),
    faceAfter_ensureViews_of_hosted stored (by simp [different, isHosted]) computed]
  exact faceAfter_of_notMem (by simp [Command.subject?, different]) face

theorem spares_promote (different : id ≠ node.id) (promoted : tree.promote node = .ok change) :
    Spares tree hasViews change id := by
  obtain ⟨views, computed, rfl⟩ := promote_eq_ok promoted
  refine Spares.announcing ⟨by rw [portrait?_promoted, if_neg different], fun _ face => ?_⟩
  rw [faceAfter_append, faceAfter_append,
    faceAfter_of_notMem (notMem_subjects_rebuilt _ node.id different),
    faceAfter_of_notMem (notMem_subjects_topLevelViews computed different)]
  exact faceAfter_of_notMem (by simp [Command.subject?, different]) face

theorem spares_move (forest : tree.Forest)
    (found : tree.node? node.id = some node) (isChild : node.kind = .child)
    (admits : tree.Admits node.id parent) (wasHosted : hasViews node.id = true)
    (different : id ≠ node.id) (moved : tree.move hasViews node parent = .ok change) :
    Spares tree hasViews change id := by
  obtain ⟨above, here, computed, hereIs, rfl⟩ := move_eq_ok moved
  obtain ⟨whole, -, rfl⟩ := hereIs wasHosted
  have stored := (rehomed_moved forest found isChild admits).stored
  refine ⟨by rw [portrait?_moved, if_neg different], fun isHosted face => ?_⟩
  have detaching : subjects (if node.visible then tree.detachCommands node.id else []) = [] := by
    split <;> simp
  have attaching : subjects (if node.visible then
      (tree.moved node.id parent).attachCommands node.id else []) = [] := by
    split <;> simp
  rw [faceAfter_append, faceAfter_append, faceAfter_of_mute detaching,
    faceAfter_ensureViews_of_hosted stored isHosted computed]
  exact faceAfter_of_notMem (by simp [Command.subject?, different, attaching]) face

theorem spares_reparent (forest : tree.Forest) (hosting : Hosting tree hasViews)
    {target : WindowId} (different : id ≠ target)
    {scale : Binary32} (reparented : tree.reparent hasViews target parent scale = .ok change) :
    Spares tree hasViews change id := by
  obtain ⟨node, first, found, notDesktop, rfl, moves⟩ := reparent_eq_ok reparented
  have own : node.id = target := forest.stored target node found
  subst own
  refine spares_rescale ?_ node.id scale
  rcases moves with rfl | ⟨-, promoted⟩ | ⟨admits, isTopLevel, demoted⟩ |
    ⟨admits, notTopLevel, -, moved⟩
  · exact spares_of_mute rfl rfl
  · exact spares_promote different promoted
  · exact spares_demote forest found isTopLevel admits different demoted
  · have isChild := isChild_of_neither notDesktop notTopLevel
    have wasHosted := hosting.views node.id .child (isChild ▸ kind?_of_node? found) (by simp)
    exact spares_move forest found isChild admits wasHosted different moved

theorem spares_position (forest : tree.Forest) {target : WindowId} (different : id ≠ target)
    {placement : Placement} (positioned : tree.position hasViews target placement = .ok change) :
    Spares tree hasViews change id := by
  obtain ⟨node, found, kinds⟩ := position_eq_ok positioned
  have own : node.id = target := forest.stored target node found
  subst own
  have stored : (tree.store node.id placement).portrait? id = tree.portrait? id := by
    rw [portrait?_store, if_neg different]
  rcases kinds with ⟨-, rfl⟩ | ⟨-, topLevel⟩ | ⟨-, child⟩
  · exact spares_of_mute stored rfl
  · obtain ⟨stacked, whole, footprint, notices, stacking, -, -, rfl⟩ :=
      positionTopLevel_eq_ok topLevel
    refine Spares.announcing (spares_of_notMem ?_ ?_)
    · rcases stacking with ⟨-, directive, rfl⟩ | ⟨-, rfl⟩
      · exact (portrait?_place _ node.id id directive).trans stored
      · exact stored
    · split <;> simp [Command.subject?, different, alignDesktopCommand]
  · obtain ⟨stacked, commands, notices, stacking, unhosted, hosted, rfl⟩ :=
      positionChild_eq_ok child
    refine spares_of_notMem ?_ ?_
    · rcases stacking with ⟨rfl, -⟩ | ⟨-, parent, -, rfl⟩
      · exact stored
      · exact (portrait?_restackedUnder _ node.id id parent _).trans stored
    · cases views : hasViews node.id with
      | false => simp [unhosted views]
      | true =>
          obtain ⟨whole, footprint, -, -, rfl⟩ := hosted views
          split <;> simp [Command.subject?, different]

theorem spares_focus {target : WindowId} (focused : tree.focus target = .ok change) :
    Spares tree hasViews change id := by
  obtain ⟨node, -, accepted⟩ := onLive_eq_ok focused
  split at accepted
  · cases accepted
    exact Spares.announcing (spares_of_mute rfl rfl)
  · cases accepted
    exact spares_of_mute rfl rfl

/-- Titles and icons are no part of a portrait. -/
theorem spares_relabel {target : WindowId} {edit : Node → Node} (topLevel : Bool)
    (keeps : ∀ node, (edit node).portrait = node.portrait) :
    Spares tree hasViews (announcingIf topLevel { tree := tree.updateNode target edit }) id :=
  Spares.announcingIf
    (spares_of_mute (portrait?_updateNode_of_keeps tree target id keeps) rfl) topLevel

theorem spares_surfaceAvailable (forest : tree.Forest) {target : WindowId} (different : id ≠ target)
    {kind : Surface.Kind} {handle : Surface.Handle}
    (accepted : tree.surfaceAvailable target kind handle = .ok change) :
    Spares tree hasViews change id := by
  obtain ⟨node, parking, restoring, found, parked, restored, rfl⟩ := surfaceAvailable_eq_ok accepted
  have own : node.id = target := forest.stored target node found
  refine spares_of_notMem (by rw [portrait?_setSurfaces, if_neg different]) fun member => ?_
  obtain ⟨command, isCommand, names⟩ := List.mem_filterMap.mp member
  obtain ⟨which, rect, rfl⟩ := layouts_of_arrival parked restored command isCommand
  exact different ((Option.some.inj names).symm.trans own)

theorem spares_surfaceDestroyed {target : WindowId} (different : id ≠ target)
    {kind : Surface.Kind} (accepted : tree.surfaceDestroyed target kind = .ok change) :
    Spares tree hasViews change id := by
  obtain ⟨node, -, rfl⟩ := surfaceDestroyed_eq_ok accepted
  exact spares_of_mute (by rw [portrait?_setSurfaces, if_neg different]) rfl

theorem subjects_map_setShown (windows : List WindowId) (shown : Bool) :
    subjects (windows.map fun window => .setShown window shown) = [] := by
  refine List.filterMap_eq_nil_iff.mpr fun command member => ?_
  obtain ⟨window, -, rfl⟩ := List.mem_map.mp member
  rfl

/-- An event that does not touch a live window, and does not remove it, spares it. -/
theorem spares_of_change (forest : tree.Forest) (hosting : Hosting tree hasViews)
    (live : tree.isLive id = true) {event : TreeEvent}
    (accepted : tree.change hasViews event = .ok change) (away : event.touches id = false)
    (stays : change.tree.isLive id = true) : Spares tree hasViews change id := by
  cases event with
  | createDesktop target =>
      obtain ⟨-, dead, rfl⟩ := createDesktop_eq_ok accepted
      have different : id ≠ target := fun isTarget => dead (isTarget ▸ live)
      refine spares_of_mute ?_ rfl
      exact (portrait?_addNode tree id _).trans (if_neg different)
  | create target parent scale accelerated process =>
      exact spares_create forest (beq_eq_false_iff_ne.mp away) accepted
  | startAccelerated target =>
      rw [startAccelerated_eq_ok accepted]
      exact spares_accelerate (beq_eq_false_iff_ne.mp away)
  | destroy root =>
      cases accepted
      exact spares_destroy forest root stays
  | reparent target parent scale =>
      exact spares_reparent forest hosting
        (beq_eq_false_iff_ne.mp away) accepted
  | position target placement =>
      exact spares_position forest (beq_eq_false_iff_ne.mp away) accepted
  | focus target => exact spares_focus accepted
  | setText target text =>
      obtain ⟨node, -, changed⟩ := onLive_eq_ok accepted
      cases changed
      exact spares_relabel node.isTopLevel fun _ => rfl
  | setIcon target icon =>
      obtain ⟨node, -, changed⟩ := onLive_eq_ok accepted
      cases changed
      exact spares_relabel node.isTopLevel fun _ => rfl
  | surfaceAvailable target kind handle =>
      exact spares_surfaceAvailable forest (beq_eq_false_iff_ne.mp away)
        accepted
  | surfaceDestroyed target kind =>
      exact spares_surfaceDestroyed (beq_eq_false_iff_ne.mp away) accepted
  | viewVisibility target kind visible =>
      obtain ⟨node, -, reported⟩ := onLive_eq_ok accepted
      cases reported
      exact spares_of_mute rfl rfl
  | activityStarted =>
      cases accepted
      exact spares_of_mute rfl (subjects_map_setShown _ true)
  | activityStopped =>
      cases accepted
      exact spares_of_mute rfl (subjects_map_setShown _ false)

end Tree

end WindowRelay
