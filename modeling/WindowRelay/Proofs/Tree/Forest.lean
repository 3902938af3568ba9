import Mathlib.Data.List.Perm.Subperm
import WindowRelay.Proofs.Tree.Links
import WindowRelay.Proofs.Tree.Outline

/-!
Contract: the windows of a tree form a forest.

Owns:
- trees of one outline and trees of one look, between which only other attributes differ;
- the invariant: links that agree, kinds that match the links, the top-level order and the desktop
  window;
- the walk to the ancestors, which the number of windows never cuts short;
- the two ways in which changes keep the invariant: they leave outlines alone, or one window goes
  somewhere else.

Does not own: which change an event makes (`Proofs.Tree.Lifetime`, `Proofs.Tree.Reparent`,
`Proofs.Tree.Position`).
-/

namespace WindowRelay

namespace Tree

/-- The windows form a forest, and order and desktop window list what the kinds say. -/
structure Forest (tree : Tree) : Prop where
  stored : tree.Stored
  links : Links tree.parent? tree.children
  /-- only children have a parent -/
  anchored : ∀ id kind, tree.kind? id = some kind → kind ≠ .child → tree.parent? id = none
  /-- only the message-only window is a child without a parent -/
  detached : ∀ id, tree.kind? id = some .child → tree.parent? id = none → id = WindowId.messageOnly
  listed : ∀ id, id ∈ tree.order ↔ ∃ flag, tree.kind? id = some (.topLevel flag)
  listedOnce : tree.order.Nodup
  desktop : ∀ id, tree.desktop = some id ↔ tree.kind? id = some .desktop

/-! ## Trees of one outline -/

/-- Kinds, links, order and desktop window are the same. -/
structure SameOutline (before after : Tree) : Prop where
  nodes : ∀ id, after.outline? id = before.outline? id
  order : after.order = before.order
  desktop : after.desktop = before.desktop

/-- Styles are the same as well, so the same windows are shown. -/
structure SameLook (before after : Tree) : Prop extends SameOutline before after where
  styles : ∀ id, after.style? id = before.style? id

namespace SameOutline

variable {before after : Tree}

/-- Whatever is read off an outline is the same on both sides. -/
theorem map_node?_eq {α : Type} (same : SameOutline before after) (read : Node.Outline → α)
    (id : WindowId) :
    (after.node? id).map (fun node => read node.outline) =
      (before.node? id).map fun node => read node.outline := by
  have outlines := congrArg (Option.map read) (same.nodes id)
  simpa [outline?, Function.comp_def] using outlines

theorem kind? (same : SameOutline before after) (id : WindowId) :
    after.kind? id = before.kind? id :=
  same.map_node?_eq Node.Outline.kind id

theorem parent? (same : SameOutline before after) (id : WindowId) :
    after.parent? id = before.parent? id := by
  have parents := congrArg (·.bind fun parent => parent)
    (same.map_node?_eq Node.Outline.parent id)
  rw [Option.bind_map, Option.bind_map] at parents
  exact parents

theorem children (same : SameOutline before after) (id : WindowId) :
    after.children id = before.children id :=
  congrArg (fun lists : Option (List WindowId) => lists.getD [])
    (same.map_node?_eq Node.Outline.children id)

theorem isLive (same : SameOutline before after) (id : WindowId) :
    after.isLive id = before.isLive id := by
  rw [isLive_eq_kind?, isLive_eq_kind?, same.kind?]

theorem isTopmost (same : SameOutline before after) (id : WindowId) :
    after.isTopmost id = before.isTopmost id := by
  rw [isTopmost_eq, isTopmost_eq, same.kind?]

theorem stored (same : SameOutline before after) (beforeStored : before.Stored) :
    after.Stored := by
  intro id node found
  have ids := same.map_node?_eq Node.Outline.id id
  rw [found, Option.map_some, eq_comm, Option.map_eq_some_iff] at ids
  obtain ⟨former, formerFound, sameId⟩ := ids
  exact sameId.symm.trans (beforeStored id former formerFound)

end SameOutline

namespace SameLook

variable {before after : Tree}

theorem refl (tree : Tree) : SameLook tree tree := ⟨⟨fun _ => rfl, rfl, rfl⟩, fun _ => rfl⟩

theorem trans {last : Tree} (first : SameLook before after) (second : SameLook after last) :
    SameLook before last where
  nodes id := (second.nodes id).trans (first.nodes id)
  order := second.order.trans first.order
  desktop := second.desktop.trans first.desktop
  styles id := (second.styles id).trans (first.styles id)

theorem isVisible (same : SameLook before after) (id : WindowId) :
    after.isVisible id = before.isVisible id := by
  rw [isVisible_eq, isVisible_eq, same.kind?, same.styles]

theorem isStacked (same : SameLook before after) (id : WindowId) :
    after.holds Node.stackedVisible id = before.holds Node.stackedVisible id := by
  rw [holds_stackedVisible_eq, holds_stackedVisible_eq, same.isVisible, same.styles]

end SameLook

theorem sameOutline_updateNode (tree : Tree) (id : WindowId) {change : Node → Node}
    (keeps : ∀ node, (change node).outline = node.outline) :
    SameOutline tree (tree.updateNode id change) where
  nodes other := by
    unfold outline?
    rw [node?_updateNode]
    split <;> simp [Function.comp_def, keeps]
  order := rfl
  desktop := rfl

/-- A change of other attributes of one window. -/
theorem sameLook_updateNode (tree : Tree) (id : WindowId) {change : Node → Node}
    (keeps : ∀ node, (change node).outline = node.outline)
    (keepsStyle : ∀ node, (change node).style = node.style) :
    SameLook tree (tree.updateNode id change) where
  toSameOutline := sameOutline_updateNode tree id keeps
  styles other := by
    rw [style?_updateNode]
    split <;> simp [style?, keepsStyle]

theorem sameLook_announce (tree : Tree) : SameLook tree tree.announce :=
  ⟨⟨fun _ => rfl, rfl, rfl⟩, fun _ => rfl⟩

theorem sameLook_rescale (tree : Tree) (id : WindowId) (scale : Binary32) :
    SameLook tree (tree.rescale id scale) where
  nodes other := by
    unfold outline?
    rw [node?_rescale, Option.map_map]
    congr 1
    funext node
    by_cases inSubtree : other ∈ tree.subtree id <;> simp [inSubtree, Node.outline]
  order := rfl
  desktop := rfl
  styles other := by
    unfold style?
    rw [node?_rescale, Option.map_map]
    congr 1
    funext node
    by_cases inSubtree : other ∈ tree.subtree id <;> simp [inSubtree]

theorem Forest.ofSameOutline {before after : Tree} (forest : before.Forest)
    (same : SameOutline before after) : after.Forest where
  stored := same.stored forest.stored
  links := by
    rw [funext same.parent?, funext same.children]
    exact forest.links
  anchored id kind := by
    rw [same.kind?, same.parent?]
    exact forest.anchored id kind
  detached id := by
    rw [same.kind?, same.parent?]
    exact forest.detached id
  listed id := by
    rw [same.kind?, same.order]
    exact forest.listed id
  listedOnce := same.order ▸ forest.listedOnce
  desktop id := by
    rw [same.kind?, same.desktop]
    exact forest.desktop id

/-! ## The walk to the ancestors -/

theorem ancestorsWithin_eq {tree : Tree} {id : WindowId} {chain : List WindowId}
    (ascent : Ascent tree.parent? id chain) {steps : Nat} (enough : chain.length ≤ steps) :
    tree.ancestorsWithin steps id = chain := by
  induction ascent generalizing steps with
  | @root id parentless =>
      cases steps with
      | zero => rfl
      | succ steps => simp only [ancestorsWithin, parentless]
  | @step id parent rest link above inductionHypothesis =>
      cases steps with
      | zero => simp at enough
      | succ steps =>
          have enoughAbove : rest.length ≤ steps := by simpa using enough
          simp only [ancestorsWithin, link, inductionHypothesis enoughAbove]

theorem length_le_size (tree : Tree) {windows : List WindowId} (distinct : windows.Nodup)
    (live : ∀ id ∈ windows, tree.isLive id = true) : windows.length ≤ tree.size := by
  have subset : windows ⊆ tree.nodes.keys := fun id member =>
    (Table.mem_keys_iff tree.nodes id).mpr (isLive_iff.mp (live id member))
  calc windows.length ≤ tree.nodes.keys.length := (distinct.subperm subset).length_le
    _ = tree.size := Table.length_keys tree.nodes

namespace Forest

variable {tree : Tree} {id parent : WindowId}

theorem isLive_of_child (forest : tree.Forest) (link : tree.parent? id = some parent) :
    tree.isLive id = true ∧ tree.isLive parent = true := by
  refine ⟨?_, ?_⟩
  · by_contra dead
    rw [parent?_eq_none_of_not_isLive dead] at link
    cases link
  · by_contra dead
    have member := (forest.links.linked id parent).mp link
    rw [children_eq_nil_of_not_isLive dead] at member
    exact List.not_mem_nil member

theorem isLive_of_mem_ascent (forest : tree.Forest) {chain : List WindowId} {member : WindowId}
    (ascent : Ascent tree.parent? id chain) (isMember : member ∈ chain) :
    tree.isLive member = true := by
  obtain ⟨child, link⟩ := ascent.exists_child_of_mem isMember
  exact (forest.isLive_of_child link).2

/-- The bounded walk sees the whole chain of parents. -/
theorem ascent_ancestors (forest : tree.Forest) (id : WindowId) :
    Ascent tree.parent? id (tree.ancestors id) := by
  obtain ⟨chain, ascent⟩ := forest.links.rooted id
  have distinct : chain.Nodup := (List.nodup_cons.mp ascent.nodup).2
  -- A chain passes live windows only, and each of them once.
  have enough : chain.length ≤ tree.size :=
    tree.length_le_size distinct fun _ member => forest.isLive_of_mem_ascent ascent member
  unfold ancestors
  rw [ancestorsWithin_eq ascent enough]
  exact ascent

theorem length_ancestors_lt (forest : tree.Forest) (live : tree.isLive id = true) :
    (tree.ancestors id).length < tree.size := by
  have ascent := forest.ascent_ancestors id
  have allLive : ∀ other ∈ id :: tree.ancestors id, tree.isLive other = true := by
    intro other member
    rcases List.mem_cons.mp member with isId | isAbove
    · exact isId ▸ live
    · exact forest.isLive_of_mem_ascent ascent isAbove
  exact tree.length_le_size ascent.nodup allLive

theorem ancestors_of_parent? (forest : tree.Forest) (link : tree.parent? id = some parent) :
    tree.ancestors id = parent :: tree.ancestors parent :=
  (forest.ascent_ancestors id).unique (.step link (forest.ascent_ancestors parent))

theorem length_ancestors_of_mem_children (forest : tree.Forest)
    (member : id ∈ tree.children parent) :
    (tree.ancestors id).length = (tree.ancestors parent).length + 1 := by
  rw [forest.ancestors_of_parent? ((forest.links.linked id parent).mpr member), List.length_cons]

theorem ancestors_of_root (forest : tree.Forest) (parentless : tree.parent? id = none) :
    tree.ancestors id = [] :=
  (forest.ascent_ancestors id).unique (.root parentless)

theorem children_of_root (forest : tree.Forest) (parentless : tree.parent? id = none)
    (parent : WindowId) : Stacking.without (tree.children parent) id = tree.children parent :=
  Stacking.without_of_notMem (forest.links.not_mem_children_of_root parentless parent)

/-- Only its parent lists a window among its children. -/
theorem without_children (forest : tree.Forest) {other : WindowId} {node : Node}
    (found : tree.node? other = some node) (id : WindowId) :
    Stacking.without node.children id =
      if tree.parent? id = some other then Stacking.without node.children id
      else node.children := by
  split
  · rfl
  · next notParent =>
      refine Stacking.without_of_notMem fun member => notParent ?_
      exact (forest.links.linked id other).mpr (children_of_node? found ▸ member)

theorem node?_unlink (forest : tree.Forest) (id other : WindowId) :
    (tree.unlink (tree.parent? id) id).node? other = (tree.node? other).map fun node =>
      { node with children := Stacking.without node.children id } := by
  rw [Tree.node?_unlink]
  cases found : tree.node? other with
  | none => simp
  | some node =>
      have lists := forest.without_children found id
      by_cases isParent : tree.parent? id = some other
      · rw [if_pos isParent]
      · rw [if_neg isParent] at lists
        rw [if_neg isParent, Option.map_some, lists]

theorem not_mem_order (forest : tree.Forest)
    (other : ∀ flag, tree.kind? id ≠ some (.topLevel flag)) : id ∉ tree.order := by
  intro member
  obtain ⟨flag, isTopLevel⟩ := (forest.listed id).mp member
  exact other flag isTopLevel

theorem not_mem_order_of_dead (forest : tree.Forest) (dead : ¬ tree.isLive id = true) :
    id ∉ tree.order :=
  forest.not_mem_order fun flag => by simp [kind?, node?_eq_none_of_not_isLive dead]

theorem desktop_ne (forest : tree.Forest) (other : tree.kind? id ≠ some .desktop) :
    tree.desktop ≠ some id :=
  fun isDesktop => other ((forest.desktop id).mp isDesktop)

end Forest

/-! ## One window goes somewhere else -/

/-- One window, of kind `kind` and style `style` afterwards, has left its place and stands as the
last child of `target`, at the back of the top-level order, or nowhere. -/
structure Rehomed (before after : Tree) (id : WindowId) (kind : Option Node.Kind)
    (style : Option Style) (target : Option WindowId) : Prop where
  stored : after.Stored
  kinds : ∀ other, after.kind? other = if other = id then kind else before.kind? other
  styles : ∀ other, after.style? other = if other = id then style else before.style? other
  parents : ∀ other, after.parent? other = if other = id then target else before.parent? other
  lists : ∀ parent, after.children parent =
    Stacking.without (before.children parent) id ++ if target = some parent then [id] else []
  order : after.order =
    if kind = some (.topLevel false) then id :: Stacking.without before.order id
    else Stacking.without before.order id
  desktop : ∀ other, after.desktop = some other ↔
    if other = id then kind = some .desktop else before.desktop = some other
  above : ∀ parent, target = some parent →
    ∃ chain, Ascent before.parent? parent chain ∧ id ∉ parent :: chain
  anchored : kind ≠ some .child → target = none
  detached : kind = some .child → target = none → id = WindowId.messageOnly
  normal : kind ≠ some (.topLevel true)

/-- Later changes of attributes do not matter. -/
theorem Rehomed.withLook {before after last : Tree} {id : WindowId} {kind : Option Node.Kind}
    {style : Option Style} {target : Option WindowId}
    (rehomed : Rehomed before after id kind style target) (same : SameLook after last) :
    Rehomed before last id kind style target where
  stored := same.stored rehomed.stored
  kinds other := (same.kind? other).trans (rehomed.kinds other)
  styles other := (same.styles other).trans (rehomed.styles other)
  parents other := (same.parent? other).trans (rehomed.parents other)
  lists parent := (same.children parent).trans (rehomed.lists parent)
  order := same.order.trans rehomed.order
  desktop other := by rw [same.desktop, rehomed.desktop]
  above := rehomed.above
  anchored := rehomed.anchored
  detached := rehomed.detached
  normal := rehomed.normal

theorem Forest.ofRehomed {before after : Tree} {id : WindowId} {kind : Option Node.Kind}
    {style : Option Style} {target : Option WindowId} (forest : before.Forest)
    (rehomed : Rehomed before after id kind style target) : after.Forest where
  stored := rehomed.stored
  links := forest.links.relink rehomed.parents rehomed.lists rehomed.above
  anchored other otherKind isKind notChild := by
    rw [rehomed.kinds] at isKind
    rw [rehomed.parents]
    by_cases isId : other = id
    · rw [if_pos isId] at isKind ⊢
      exact rehomed.anchored (by rw [isKind]; simpa using notChild)
    · rw [if_neg isId] at isKind ⊢
      exact forest.anchored other otherKind isKind notChild
  detached other isChild parentless := by
    rw [rehomed.kinds] at isChild
    rw [rehomed.parents] at parentless
    by_cases isId : other = id
    · rw [if_pos isId] at isChild parentless
      exact isId.trans (rehomed.detached isChild parentless)
    · rw [if_neg isId] at isChild parentless
      exact forest.detached other isChild parentless
  listed other := by
    rw [rehomed.order, rehomed.kinds]
    have listed := forest.listed other
    by_cases isId : other = id
    · subst isId
      by_cases isTopLevel : kind = some (.topLevel false)
      · simp [isTopLevel]
      · have noFlag : ∀ flag, kind ≠ some (.topLevel flag) := by
          intro flag
          cases flag with
          | false => exact isTopLevel
          | true => exact rehomed.normal
        simp [isTopLevel, Stacking.mem_without, noFlag]
    · by_cases isTopLevel : kind = some (.topLevel false) <;>
        simp [isTopLevel, Stacking.mem_without, isId, listed]
  listedOnce := by
    rw [rehomed.order]
    have restDistinct := Stacking.nodup_without id forest.listedOnce
    by_cases isTopLevel : kind = some (.topLevel false)
    · rw [if_pos isTopLevel]
      exact List.nodup_cons.mpr ⟨fun member => (Stacking.mem_without.mp member).2 rfl, restDistinct⟩
    · rw [if_neg isTopLevel]
      exact restDistinct
  desktop other := by
    rw [rehomed.desktop, rehomed.kinds]
    by_cases isId : other = id
    · rw [if_pos isId, if_pos isId]
    · rw [if_neg isId, if_neg isId]
      exact forest.desktop other

end Tree

end WindowRelay
