import WindowRelay.Proofs.Tree.Attributes
import WindowRelay.Proofs.Tree.Lifetime
import WindowRelay.Proofs.Tree.Position
import WindowRelay.Proofs.Tree.Reparent
import WindowRelay.Proofs.Tree.Teardown

/-!
Contract: every event as a sequence of four kinds of elementary steps.

Owns:
- the steps: attributes change, one window goes somewhere else, a directive for a top-level window,
  a directive for a child;
- every successful event on a forest is a sequence of such steps;
- the windows stay a forest.

An invariant of the tree alone is preserved by every event as soon as these four steps preserve it.
-/

namespace WindowRelay

namespace Tree

/-- One tree leads to another by elementary steps. -/
inductive Evolves : Tree → Tree → Prop where
  | attributes {before after : Tree} (same : SameOutline before after) : Evolves before after
  | rehome {before after : Tree} {id : WindowId} {kind : Option Node.Kind} {style : Option Style}
      {target : Option WindowId} (rehomed : Rehomed before after id kind style target) :
      Evolves before after
  | place {before : Tree} {id : WindowId} {flag : Bool}
      (isTopLevel : before.kind? id = some (.topLevel flag)) (directive : Directive) :
      Evolves before (before.place id directive)
  | restackUnder {before : Tree} {id parent : WindowId} (link : before.parent? id = some parent)
      (directive : Directive) : Evolves before (before.restackedUnder parent id directive)
  | trans {before after last : Tree} (first : Evolves before after)
      (second : Evolves after last) : Evolves before last

variable {tree : Tree} {id : WindowId} {change : Change} {hasViews : WindowId → Bool}

theorem Forest.ofEvolves {before after : Tree} (forest : before.Forest)
    (evolves : Evolves before after) : after.Forest := by
  induction evolves with
  | attributes same => exact forest.ofSameOutline same
  | rehome rehomed => exact forest.ofRehomed rehomed
  | place isTopLevel directive => exact forest.place isTopLevel directive
  | restackUnder link directive => exact forest.restackedUnder link directive
  | trans _ _ firstKeeps secondKeeps => exact secondKeeps (firstKeeps forest)

theorem Evolves.withLook {before after last : Tree} (evolves : Evolves before after)
    (same : SameLook after last) : Evolves before last :=
  evolves.trans (.attributes same.toSameOutline)

theorem Quiet.evolves (quiet : Quiet tree change) : Evolves tree change.tree :=
  .attributes quiet.look.toSameOutline

/-! ## The events -/

theorem create_evolves (forest : tree.Forest) {parent : WindowId} {scale : Binary32}
    {accelerated : Bool} {process : UInt32}
    (created : tree.create hasViews id parent scale accelerated process = .ok change) :
    Evolves tree change.tree := by
  rcases create_eq_ok created with ⟨-, -, rfl⟩ | ⟨dead, first, rfl, making⟩
  · exact (quiet_accelerate tree id).evolves
  · have added : Evolves tree first.tree := by
      rcases making with topLevel | ⟨target, detached, child⟩
      · exact .rehome (rehomed_createTopLevel forest dead topLevel)
      · exact .rehome (rehomed_createChild forest dead detached child)
    split
    · exact added.withLook (quiet_accelerate first.tree id).look
    · exact added

theorem destroy_evolves (forest : tree.Forest) (id : WindowId) :
    Evolves tree (tree.destroy id).tree := by
  refine destroy_induction forest (motive := fun change => Evolves tree change.tree) id
    (.attributes (SameLook.refl tree).toSameOutline) ?_
  intro change window changeForest live childless evolves
  exact evolves.trans (.rehome (rehomed_destroyOne changeForest live childless))

theorem reparent_evolves (forest : tree.Forest) {parent : WindowId} {scale : Binary32}
    (reparented : tree.reparent hasViews id parent scale = .ok change) :
    Evolves tree change.tree := by
  obtain ⟨node, first, found, notDesktop, rfl, moves⟩ := reparent_eq_ok reparented
  have own : node.id = id := forest.stored id node found
  have relinked : Evolves tree first.tree := by
    rcases moves with rfl | ⟨hasParent, promoted⟩ | ⟨admits, isTopLevel, demoted⟩ |
      ⟨admits, notTopLevel, -, moved⟩
    · exact .attributes (SameLook.refl tree).toSameOutline
    · obtain ⟨views, -, rfl⟩ := promote_eq_ok promoted
      rw [own]
      have rehomed := rehomed_promoted forest found (isChild_of_parent forest found hasParent)
      exact (Evolves.rehome rehomed).withLook (sameLook_announce _)
    · obtain ⟨views, -, rfl⟩ := demote_eq_ok demoted
      rw [own]
      exact (Evolves.rehome (rehomed_demoted forest found isTopLevel admits)).withLook
        (sameLook_announce _)
    · obtain ⟨above, here, -, -, rfl⟩ := move_eq_ok moved
      rw [own]
      have isChild := isChild_of_neither notDesktop notTopLevel
      exact .rehome (rehomed_moved forest found isChild admits)
  exact relinked.withLook (sameLook_rescale first.tree id scale)

theorem position_evolves (forest : tree.Forest) {placement : Placement}
    (positioned : tree.position hasViews id placement = .ok change) :
    Evolves tree change.tree := by
  obtain ⟨node, found, kinds⟩ := position_eq_ok positioned
  have own : node.id = id := forest.stored id node found
  have stored : Evolves tree (tree.store id placement) :=
    .attributes (sameOutline_store tree id placement)
  rcases kinds with ⟨-, rfl⟩ | ⟨⟨flag, kindIs⟩, topLevel⟩ | ⟨-, child⟩
  · exact stored
  · obtain ⟨stacked, whole, footprint, notices, stacking, -, -, rfl⟩ :=
      positionTopLevel_eq_ok topLevel
    rw [own] at stacking
    have placed : Evolves tree stacked := by
      rcases stacking with ⟨-, directive, rfl⟩ | ⟨-, rfl⟩
      · have isTopLevel : (tree.store id placement).kind? id = some (.topLevel flag) := by
          rw [(sameOutline_store tree id placement).kind?, kind?_of_node? found, kindIs]
        exact stored.trans (.place isTopLevel directive)
      · exact stored
    exact placed.withLook (sameLook_announce stacked)
  · obtain ⟨stacked, commands, notices, stacking, -, -, rfl⟩ := positionChild_eq_ok child
    rw [own] at stacking
    rcases stacking with ⟨rfl, -⟩ | ⟨-, parent, link, rfl⟩
    · exact stored
    · exact stored.trans (.restackUnder link placement.directive)

theorem change_evolves (forest : tree.Forest) {event : TreeEvent}
    (accepted : tree.change hasViews event = .ok change) : Evolves tree change.tree := by
  cases event with
  | createDesktop id => exact .rehome (rehomed_createDesktop forest accepted)
  | create id parent scale accelerated process => exact create_evolves forest accepted
  | startAccelerated id => exact (quiet_startAccelerated accepted).evolves
  | destroy id =>
      cases accepted
      exact destroy_evolves forest id
  | reparent id parent scale => exact reparent_evolves forest accepted
  | position id placement => exact position_evolves forest accepted
  | focus id => exact (quiet_focus accepted).evolves
  | setText id text => exact (quiet_setText accepted).evolves
  | setIcon id icon => exact (quiet_setIcon accepted).evolves
  | surfaceAvailable id kind handle => exact (quiet_surfaceAvailable accepted).evolves
  | surfaceDestroyed id kind => exact (quiet_surfaceDestroyed accepted).evolves
  | viewVisibility id kind visible => exact (quiet_viewVisibility accepted).evolves
  | activityStarted =>
      cases accepted
      exact (quiet_activityStarted tree).evolves
  | activityStopped =>
      cases accepted
      exact (quiet_activityStopped tree).evolves

/-- Every accepted event leaves a forest. -/
theorem Forest.ofChange (forest : tree.Forest) {event : TreeEvent}
    (accepted : tree.change hasViews event = .ok change) : change.tree.Forest :=
  forest.ofEvolves (change_evolves forest accepted)

/-- A tree without windows is a forest. -/
theorem forest_empty : ({} : Tree).Forest where
  stored id node found := by cases found
  links :=
    { linked := fun id parent => by
        constructor
        · intro link
          cases link
        · intro member
          cases member
      distinct := fun _ => List.nodup_nil
      rooted := fun _ => ⟨[], .root rfl⟩ }
  anchored id kind isKind := by cases isKind
  detached id isChild := by cases isChild
  listed id := by
    constructor
    · intro member
      cases member
    · rintro ⟨flag, isTopLevel⟩
      cases isTopLevel
  listedOnce := List.nodup_nil
  desktop id := by
    constructor
    · intro isDesktop
      cases isDesktop
    · intro isKind
      cases isKind

end Tree

end WindowRelay
