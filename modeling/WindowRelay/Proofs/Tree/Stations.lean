import WindowRelay.Proofs.Tree.Records

/-!
Contract: what each event does to the kind and the parent of one window.

Owns:
- the station of a window: its kind and its parent;
- the kind that a move leaves to the window that moves;
- what an event makes of it: a window comes in one of three ways, rises to the top level, goes under
  another parent, changes its band, or goes away, and otherwise keeps its station.

A law about kinds and parents holds after every run as soon as these seven ways preserve it.
-/

namespace WindowRelay

namespace Tree

variable {tree : Tree} {id other : WindowId} {change : Change} {hasViews : WindowId → Bool}

/-- What an event makes of the kind and the parent of a window. -/
inductive Stationed (tree : Tree) (id : WindowId) :
    TreeEvent → Option Node.Kind → Option WindowId → Prop where
  | kept (event : TreeEvent) : Stationed tree id event (tree.kind? id) (tree.parent? id)
  | registered (vacant : tree.desktop = none) (dead : ¬ tree.isLive id = true) :
      Stationed tree id (.createDesktop id) (some .desktop) none
  | hosted {scale : Binary32} {accelerated : Bool} {process : UInt32}
      (dead : ¬ tree.isLive id = true) (named : id ≠ WindowId.absent)
      (ordinary : id ≠ WindowId.messageOnly) :
      Stationed tree id (.create id WindowId.absent scale accelerated process)
        (some (.topLevel false)) none
  | born {parent : WindowId} {scale : Binary32} {accelerated : Bool} {process : UInt32}
      (dead : ¬ tree.isLive id = true) (named : id ≠ WindowId.absent)
      (home : parent = WindowId.absent → id = WindowId.messageOnly) :
      Stationed tree id (.create id parent scale accelerated process) (some .child)
        (if parent = WindowId.absent then none else some parent)
  | risen {scale : Binary32} (isChild : tree.kind? id = some .child)
      (linked : (tree.parent? id).isSome = true) :
      Stationed tree id (.reparent id WindowId.absent scale) (some (.topLevel false)) none
  | adopted {parent : WindowId} {scale : Binary32} (live : tree.isLive id = true)
      (named : parent ≠ WindowId.absent) (admits : tree.Admits id parent) :
      Stationed tree id (.reparent id parent scale) (some .child) (some parent)
  | restacked {placement : Placement} {flag : Bool}
      (isTopLevel : tree.kind? id = some (.topLevel flag)) (next : Bool) :
      Stationed tree id (.position id placement) (some (.topLevel next)) (tree.parent? id)
  | went {root : WindowId} (inSubtree : id = root ∨ root ∈ tree.ancestors id) :
      Stationed tree id (.destroy root) none none

namespace Stationed

variable {event : TreeEvent} {after : Tree}

theorem of_sameOutline (same : SameOutline tree after) (event : TreeEvent) (other : WindowId) :
    Stationed tree other event (after.kind? other) (after.parent? other) := by
  rw [same.kind?, same.parent?]
  exact .kept event

/-- One window goes somewhere else, and all others keep their stations. -/
theorem of_rehomed {kind : Option Node.Kind} {style : Option Style} {target : Option WindowId}
    (rehomed : Rehomed tree after id kind style target) (own : Stationed tree id event kind target)
    (other : WindowId) : Stationed tree other event (after.kind? other) (after.parent? other) := by
  rw [rehomed.kinds, rehomed.parents]
  by_cases isId : other = id
  · subst isId
    rw [if_pos rfl, if_pos rfl]
    exact own
  · rw [if_neg isId, if_neg isId]
    exact .kept event

theorem withLook {last : Tree}
    (stationed : Stationed tree other event (after.kind? other) (after.parent? other))
    (same : SameLook after last) :
    Stationed tree other event (last.kind? other) (last.parent? other) := by
  rw [same.kind?, same.parent?]
  exact stationed

end Stationed

theorem stationed_create (forest : tree.Forest) {parent : WindowId} {scale : Binary32}
    {accelerated : Bool} {process : UInt32}
    (created : tree.create hasViews id parent scale accelerated process = .ok change)
    (other : WindowId) :
    Stationed tree other (.create id parent scale accelerated process)
      (change.tree.kind? other) (change.tree.parent? other) := by
  obtain ⟨named, ⟨-, -, rfl⟩ | ⟨dead, first, rfl, making⟩⟩ := create_cases created
  · exact .of_sameOutline (quiet_accelerate tree id).look.toSameOutline _ other
  · have added : Stationed tree other (.create id parent scale accelerated process)
        (first.tree.kind? other) (first.tree.parent? other) := by
      rcases making with ⟨rfl, ordinary, topLevel⟩ | ⟨home, child⟩
      · exact .of_rehomed (rehomed_createTopLevel forest dead topLevel)
          (.hosted dead named ordinary) other
      · refine .of_rehomed (rehomed_createChild forest dead (fun noTarget => ?_) child)
          (.born dead named home) other
        by_contra ordinary
        rw [if_neg fun isAbsent => ordinary (home isAbsent)] at noTarget
        cases noTarget
    split
    · exact added.withLook (quiet_accelerate first.tree id).look
    · exact added

theorem stationed_reparent (forest : tree.Forest) {parent : WindowId} {scale : Binary32}
    (reparented : tree.reparent hasViews id parent scale = .ok change) (other : WindowId) :
    Stationed tree other (.reparent id parent scale)
      (change.tree.kind? other) (change.tree.parent? other) := by
  obtain ⟨node, first, found, notDesktop, rfl, moves⟩ := reparent_cases reparented
  have own : node.id = id := forest.stored id node found
  have live : tree.isLive id = true := isLive_iff.mpr ⟨node, found⟩
  have stays : Stationed tree other (.reparent id parent scale)
      (tree.kind? other) (tree.parent? other) := .kept _
  refine Stationed.withLook ?_ (sameLook_rescale first.tree id scale)
  rcases moves with ⟨rfl, ⟨-, rfl⟩ | ⟨hasParent, promoted⟩⟩ |
    ⟨named, admits, ⟨isTopLevel, demoted⟩ | ⟨-, -, rfl⟩ | ⟨notTopLevel, -, moved⟩⟩
  · exact stays
  · obtain ⟨views, -, rfl⟩ := promote_eq_ok promoted
    rw [own]
    have isChild := isChild_of_parent forest found hasParent
    have risen : Stationed tree id (.reparent id WindowId.absent scale)
        (some (.topLevel false)) none :=
      .risen (isChild ▸ kind?_of_node? found) (by rw [parent?_of_node? found]; exact hasParent)
    exact (Stationed.of_rehomed (rehomed_promoted forest found isChild) risen other).withLook
      (sameLook_announce _)
  · obtain ⟨views, -, rfl⟩ := demote_eq_ok demoted
    rw [own]
    exact (Stationed.of_rehomed (rehomed_demoted forest found isTopLevel admits)
      (.adopted live named admits) other).withLook (sameLook_announce _)
  · exact stays
  · obtain ⟨above, here, -, -, rfl⟩ := move_eq_ok moved
    rw [own]
    have isChild := isChild_of_neither notDesktop notTopLevel
    exact .of_rehomed (rehomed_moved forest found isChild admits) (.adopted live named admits) other

/-- The kind that an accepted move leaves to the window itself. -/
theorem kind?_reparent_self (forest : tree.Forest) {parent : WindowId} {scale : Binary32}
    (reparented : tree.reparent hasViews id parent scale = .ok change) :
    change.tree.kind? id =
      if parent = WindowId.absent then
        if (tree.parent? id).isSome then some (.topLevel false) else tree.kind? id
      else some .child := by
  obtain ⟨node, first, found, notDesktop, rfl, moves⟩ := reparent_cases reparented
  have own : node.id = id := forest.stored id node found
  have kindIs := kind?_of_node? found
  have link := parent?_of_node? found
  refine ((sameLook_rescale first.tree id scale).kind? id).trans ?_
  rcases moves with ⟨rfl, ⟨parentless, rfl⟩ | ⟨hasParent, promoted⟩⟩ |
    ⟨named, admits, ⟨isTopLevel, demoted⟩ | ⟨notTopLevel, -, rfl⟩ | ⟨notTopLevel, -, moved⟩⟩
  · simp [link, parentless]
  · obtain ⟨views, -, rfl⟩ := promote_eq_ok promoted
    have isChild := isChild_of_parent forest found hasParent
    rw [if_pos rfl, link, if_pos hasParent]
    refine ((sameLook_announce (tree.promoted node.id)).kind? id).trans ?_
    rw [own, (rehomed_promoted forest found isChild).kinds, if_pos rfl]
  · obtain ⟨views, -, rfl⟩ := demote_eq_ok demoted
    rw [if_neg named]
    refine ((sameLook_announce (tree.demoted node.id parent)).kind? id).trans ?_
    rw [own, (rehomed_demoted forest found isTopLevel admits).kinds, if_pos rfl]
  · rw [if_neg named, kindIs, isChild_of_neither notDesktop notTopLevel]
  · obtain ⟨above, here, -, -, rfl⟩ := move_eq_ok moved
    have isChild := isChild_of_neither notDesktop notTopLevel
    rw [if_neg named, own, (rehomed_moved forest found isChild admits).kinds, if_pos rfl]

theorem stationed_position (forest : tree.Forest) {placement : Placement}
    (positioned : tree.position hasViews id placement = .ok change) (other : WindowId) :
    Stationed tree other (.position id placement)
      (change.tree.kind? other) (change.tree.parent? other) := by
  obtain ⟨node, found, kinds⟩ := position_eq_ok positioned
  have own : node.id = id := forest.stored id node found
  have same := sameOutline_store tree id placement
  have stored := Stationed.of_sameOutline same (.position id placement) other
  rcases kinds with ⟨-, rfl⟩ | ⟨⟨flag, kindIs⟩, topLevel⟩ | ⟨-, child⟩
  · exact stored
  · obtain ⟨stacked, whole, footprint, notices, stacking, -, -, rfl⟩ :=
      positionTopLevel_eq_ok topLevel
    rw [own] at stacking
    refine Stationed.withLook ?_ (sameLook_announce stacked)
    rcases stacking with ⟨-, directive, rfl⟩ | ⟨-, rfl⟩
    · have isTopLevel : tree.kind? id = some (.topLevel flag) := kindIs ▸ kind?_of_node? found
      have isStored : (tree.store id placement).kind? id = some (.topLevel flag) :=
        (same.kind? id).trans isTopLevel
      rw [kind?_place directive other isStored, parent?_place, same.kind?, same.parent?]
      by_cases isId : other = id
      · subst isId
        rw [if_pos rfl]
        exact .restacked isTopLevel _
      · rw [if_neg isId]
        exact .kept _
    · exact stored
  · obtain ⟨stacked, commands, notices, stacking, -, -, rfl⟩ := positionChild_eq_ok child
    rw [own] at stacking
    rcases stacking with ⟨rfl, -⟩ | ⟨-, parent, link, rfl⟩
    · exact stored
    · rw [kind?_restackedUnder, parent?_restackedUnder]
      exact stored

/-- A window that is still there after a teardown has kept its parent. -/
theorem parent?_destroy (forest : tree.Forest) (root : WindowId)
    (stays : (tree.destroy root).tree.isLive other = true) :
    (tree.destroy root).tree.parent? other = tree.parent? other := by
  refine destroy_induction forest (motive := fun change => change.tree.isLive other = true →
    change.tree.parent? other = tree.parent? other) root (fun _ => rfl) ?_ stays
  intro change window changeForest live childless keeps staysOn
  have rehomed := rehomed_destroyOne changeForest live childless
  have different : other ≠ window := fun same => by
    rw [Change.followedBy, isLive_eq_kind?, rehomed.kinds, if_pos same] at staysOn
    cases staysOn
  rw [Change.followedBy, isLive_eq_kind?, rehomed.kinds, if_neg different,
    ← isLive_eq_kind?] at staysOn
  rw [Change.followedBy, rehomed.parents, if_neg different]
  exact keeps staysOn

theorem stationed_destroy (forest : tree.Forest) (root other : WindowId) :
    Stationed tree other (.destroy root) ((tree.destroy root).tree.kind? other)
      ((tree.destroy root).tree.parent? other) := by
  have records := record?_destroy forest root other
  by_cases inSubtree : other = root ∨ root ∈ tree.ancestors other
  · rw [if_pos inSubtree] at records
    have gone : ¬ (tree.destroy root).tree.isLive other = true := by
      rw [isLive_eq_record?, records]
      exact Bool.false_ne_true
    rw [kind?_eq_record?, records, parent?_eq_none_of_not_isLive gone]
    exact .went inSubtree
  · rw [if_neg inSubtree] at records
    have sameKind : (tree.destroy root).tree.kind? other = tree.kind? other := by
      rw [kind?_eq_record?, records, ← kind?_eq_record?]
    have sameParent : (tree.destroy root).tree.parent? other = tree.parent? other := by
      by_cases stays : (tree.destroy root).tree.isLive other = true
      · exact parent?_destroy forest root stays
      · have dead : ¬ tree.isLive other = true := by
          rwa [isLive_eq_kind?, ← sameKind, ← isLive_eq_kind?]
        rw [parent?_eq_none_of_not_isLive stays, parent?_eq_none_of_not_isLive dead]
    rw [sameKind, sameParent]
    exact .kept _

/-- What an accepted event makes of the station of any window. -/
theorem stationed_of_change (forest : tree.Forest) {event : TreeEvent}
    (accepted : tree.change hasViews event = .ok change) (other : WindowId) :
    Stationed tree other event (change.tree.kind? other) (change.tree.parent? other) := by
  have quiet : Quiet tree change → Stationed tree other event (change.tree.kind? other)
      (change.tree.parent? other) := fun quiet =>
    .of_sameOutline quiet.look.toSameOutline event other
  cases event with
  | createDesktop id =>
      obtain ⟨vacant, dead, -⟩ := createDesktop_eq_ok accepted
      exact .of_rehomed (rehomed_createDesktop forest accepted) (.registered vacant dead) other
  | create id parent scale accelerated process => exact stationed_create forest accepted other
  | startAccelerated id => exact quiet (quiet_startAccelerated accepted)
  | destroy id =>
      cases accepted
      exact stationed_destroy forest id other
  | reparent id parent scale => exact stationed_reparent forest accepted other
  | position id placement => exact stationed_position forest accepted other
  | focus id => exact quiet (quiet_focus accepted)
  | setText id text => exact quiet (quiet_setText accepted)
  | setIcon id icon => exact quiet (quiet_setIcon accepted)
  | surfaceAvailable id kind handle => exact quiet (quiet_surfaceAvailable accepted)
  | surfaceDestroyed id kind => exact quiet (quiet_surfaceDestroyed accepted)
  | viewVisibility id kind visible => exact quiet (quiet_viewVisibility accepted)
  | activityStarted =>
      cases accepted
      exact quiet (quiet_activityStarted tree)
  | activityStopped =>
      cases accepted
      exact quiet (quiet_activityStopped tree)

end Tree

end WindowRelay
