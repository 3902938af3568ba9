import WindowRelay.Proofs.Desk.DesktopOrder
import WindowRelay.Proofs.Desk.Views
import WindowRelay.Proofs.Tree.Attributes
import WindowRelay.Proofs.Tree.Lifetime

/-!
Contract: agreement of the host with the tree between two events.

Owns:
- which windows have views: every window but the desktop window, which has them once it is a parent;
- the agreement: client containers hold the visible children, the desktop container is in step with
  the order;
- what a window that goes somewhere else changes in this, and what it does not.

Does not own: the events (`Proofs.Desk.Lifetime`, `Proofs.Desk.Moves`, `Proofs.Desk.Placements`).
-/

namespace WindowRelay

/-- Windows with views are live; every live window but the desktop window has views, and so has
every parent. -/
structure Hosting (tree : Tree) (hosted : WindowId → Bool) : Prop where
  live : ∀ id, hosted id = true → tree.isLive id = true
  views : ∀ id kind, tree.kind? id = some kind → kind ≠ .desktop → hosted id = true
  above : ∀ id parent, tree.parent? id = some parent → hosted parent = true

/-- The host shows what the tree says. -/
structure Shows (tree : Tree) (scene : Scene) : Prop where
  mounted : Mounted tree scene scene.hasViews tree.isVisible scene.desktop
  hosting : Hosting tree scene.hasViews
  inStep : InStep tree scene.desktop

variable {tree before after : Tree} {scene last : Scene} {hosted hosted' shown : WindowId → Bool}
  {desktop : List WindowId} {id : WindowId}

/-- The commands of an event have left the visible children attached. -/
theorem Shows.of_mounted (forest : tree.Forest)
    (mounted : Mounted tree scene hosted shown desktop) (hosting : Hosting tree hosted)
    (inStep : InStep tree desktop)
    (onShow : ∀ id parent, tree.parent? id = some parent → shown id = tree.isVisible id) :
    Shows tree scene := by
  have hosts : scene.hasViews = hosted := funext mounted.hosts
  have desktopIs : scene.desktop = desktop := mounted.desktop
  exact
    { mounted := by
        rw [hosts, desktopIs]
        exact mounted.congr forest (fun _ => rfl) fun id parent link => (onShow id parent link).symm
      hosting := hosts ▸ hosting
      inStep := desktopIs ▸ inStep }

theorem Shows.empty (reserveFront : Bool) : Shows {} { reserveFront } where
  mounted :=
    { layered := fun id view found => by cases found
      hosts := fun _ => rfl
      lists := fun _ => rfl
      desktop := rfl }
  hosting :=
    { live := fun id isHosted => by cases isHosted
      views := fun id kind isKind => by cases isKind
      above := fun id parent link => by cases link }
  inStep := InStep.nil

/-! ## Changes of attributes -/

theorem Hosting.ofSameOutline (hosting : Hosting before hosted)
    (same : Tree.SameOutline before after) : Hosting after hosted where
  live id isHosted := (same.isLive id).trans (hosting.live id isHosted)
  views id kind isKind := hosting.views id kind ((same.kind? id).symm.trans isKind)
  above id parent link := hosting.above id parent ((same.parent? id).symm.trans link)

/-- Later changes of attributes and quiet commands do not matter. -/
theorem Shows.withLook (shows : Shows before scene) (look : Tree.SameLook before after)
    (same : Scene.SameContainers scene last) : Shows after last := by
  have hosts : last.hasViews = scene.hasViews := funext same.hasViews
  have desktopIs : last.desktop = scene.desktop := same.children .desktop
  refine ⟨?_, ?_, ?_⟩
  · rw [hosts, desktopIs]
    apply (shows.mounted.sameContainers same).retree
    intro parent
    rw [look.children, funext look.isVisible]
  · rw [hosts]
    exact shows.hosting.ofSameOutline look.toSameOutline
  · rw [desktopIs]
    exact shows.inStep.congr look.order fun other _ => look.isStacked other

theorem Shows.quiet {change : Change} (shows : Shows tree scene) (quiet : Tree.Quiet tree change) :
    Shows change.tree (scene.performAll change.commands) :=
  shows.withLook quiet.look (Scene.sameContainers_performAll scene quiet.commands)

/-- The announcement of the front title at the end of a change. -/
theorem Shows.announcing {change : Change}
    (shows : Shows change.tree (scene.performAll change.commands)) :
    Shows change.announcing.tree (scene.performAll change.announcing.commands) := by
  have announced : change.announcing.commands = change.commands ++ change.tree.announceCommands :=
    rfl
  rw [announced, Scene.performAll_append]
  exact shows.withLook (Tree.sameLook_announce change.tree)
    (Scene.sameContainers_performAll _ (Tree.quiet_announceCommands change.tree))

/-! ## One window goes somewhere else -/

namespace Tree.Rehomed

variable {kind : Option Node.Kind} {style : Option Style} {target : Option WindowId}

theorem isVisible_of_ne (rehomed : Rehomed before after id kind style target) {other : WindowId}
    (different : other ≠ id) : after.isVisible other = before.isVisible other := by
  rw [isVisible_eq, isVisible_eq, rehomed.kinds, rehomed.styles, if_neg different, if_neg different]

theorem isStacked_of_ne (rehomed : Rehomed before after id kind style target) {other : WindowId}
    (different : other ≠ id) :
    after.holds Node.stackedVisible other = before.holds Node.stackedVisible other := by
  rw [holds_stackedVisible_eq, holds_stackedVisible_eq, rehomed.isVisible_of_ne different,
    rehomed.styles, if_neg different]

theorem parent?_of_ne (rehomed : Rehomed before after id kind style target) {other : WindowId}
    (different : other ≠ id) : after.parent? other = before.parent? other := by
  rw [rehomed.parents, if_neg different]

theorem isLive_of_ne (rehomed : Rehomed before after id kind style target) {other : WindowId}
    (different : other ≠ id) : after.isLive other = before.isLive other := by
  rw [isLive_eq_kind?, isLive_eq_kind?, rehomed.kinds, if_neg different]

theorem isLive_self {newKind : Node.Kind}
    (rehomed : Rehomed before after id (some newKind) style target) : after.isLive id = true := by
  rw [isLive_eq_kind?, rehomed.kinds, if_pos rfl]
  rfl

/-- A window without a parent afterwards is nobody's child. -/
theorem ne_of_parent (rehomed : Rehomed before after id kind style none)
    {other parent : WindowId} (link : after.parent? other = some parent) : other ≠ id := by
  intro same
  rw [rehomed.parents, if_pos same] at link
  cases link

/-- A window with an empty style is invisible, the desktop window apart. -/
theorem isVisible_of_emptyStyle {newKind : Node.Kind}
    (rehomed : Rehomed before after id (some newKind) (some Style.empty) target)
    (notDesktop : newKind ≠ .desktop) : after.isVisible id = false := by
  have noBits : Style.empty.isVisible = false := by decide
  rw [isVisible_eq, rehomed.kinds, rehomed.styles, if_pos rfl, if_pos rfl]
  simp [notDesktop, noBits]

/-- While the window itself is not attached, each container is to hold what it held before. -/
theorem filter_children (rehomed : Rehomed before after id kind style target)
    (detached : shown id = false) (parent : WindowId) :
    (after.children parent).filter shown = (before.children parent).filter shown := by
  have notAdded : (if target = some parent then [id] else []).filter shown = [] := by
    split <;> simp [detached]
  rw [rehomed.lists, List.filter_append, notAdded, List.append_nil, Stacking.without,
    List.filter_filter]
  apply List.filter_congr
  intro other _
  by_cases isId : other = id <;> simp [isId, detached]

end Tree.Rehomed

/-- A window that was not listed and is no new top-level window leaves the order alone. -/
theorem InStep.rehomeUnlisted {kind : Option Node.Kind} {style : Option Style}
    {target : Option WindowId} (inStep : InStep before desktop)
    (rehomed : Tree.Rehomed before after id kind style target) (notListed : id ∉ before.order)
    (notTopLevel : kind ≠ some (.topLevel false)) : InStep after desktop := by
  refine inStep.congr ?_ fun other member => ?_
  · rw [rehomed.order, if_neg notTopLevel, Stacking.without_of_notMem notListed]
  · exact rehomed.isStacked_of_ne fun same => notListed (same ▸ member)

/-- The views that are there after a window went somewhere else. -/
theorem Hosting.rehome {kind : Option Node.Kind} {style : Option Style} {target : Option WindowId}
    (hosting : Hosting before hosted) (rehomed : Tree.Rehomed before after id kind style target)
    (keeps : ∀ other, other ≠ id → hosted other = true → hosted' other = true)
    (live : ∀ other, hosted' other = true → after.isLive other = true)
    (own : kind ≠ none → kind ≠ some .desktop → hosted' id = true)
    (above : ∀ parent, target = some parent → hosted' parent = true)
    (below : ∀ child, before.parent? child = some id → hosted' id = true) :
    Hosting after hosted' where
  live := live
  views other otherKind isKind notDesktop := by
    rw [rehomed.kinds] at isKind
    by_cases isId : other = id
    · rw [if_pos isId] at isKind
      exact isId ▸ own (by simp [isKind]) (by simpa [isKind] using notDesktop)
    · rw [if_neg isId] at isKind
      exact keeps other isId (hosting.views other otherKind isKind notDesktop)
  above other parent link := by
    rw [rehomed.parents] at link
    by_cases isId : other = id
    · rw [if_pos isId] at link
      exact above parent link
    · rw [if_neg isId] at link
      by_cases isParent : parent = id
      · exact isParent ▸ below other (isParent ▸ link)
      · exact keeps parent isParent (hosting.above other parent link)

end WindowRelay
