import WindowRelay.Tree.Event

/-!
Contract: what the elementary changes of a tree do to the questions that are asked about it.

Owns:
- the outline of a window: its id, kind and links;
- one law for each elementary change and each question about kind, style, parent and children.
-/

namespace WindowRelay

namespace Node

/-- What decides where a window stands. -/
structure Outline where
  id : WindowId
  kind : Kind
  parent : Option WindowId
  children : List WindowId

def outline (node : Node) : Outline :=
  ⟨node.id, node.kind, node.parent, node.children⟩

end Node

namespace Tree

def outline? (tree : Tree) (id : WindowId) : Option Node.Outline :=
  (tree.node? id).map Node.outline

def kind? (tree : Tree) (id : WindowId) : Option Node.Kind :=
  (tree.node? id).map Node.kind

def style? (tree : Tree) (id : WindowId) : Option Style :=
  (tree.node? id).map Node.style

/-- Every window is found under its own id. -/
def Stored (tree : Tree) : Prop :=
  ∀ id node, tree.node? id = some node → node.id = id

section Questions

variable {tree : Tree} {id : WindowId} {node : Node}

theorem kind?_of_node? (found : tree.node? id = some node) : tree.kind? id = some node.kind := by
  simp [kind?, found]

theorem parent?_of_node? (found : tree.node? id = some node) : tree.parent? id = node.parent := by
  simp [parent?, found]

theorem children_of_node? (found : tree.node? id = some node) :
    tree.children id = node.children := by
  simp [children, found]

theorem isLive_eq (tree : Tree) (id : WindowId) : tree.isLive id = (tree.node? id).isSome := rfl

theorem isLive_eq_kind? (tree : Tree) (id : WindowId) :
    tree.isLive id = (tree.kind? id).isSome := by
  simp [isLive_eq, kind?]

theorem isLive_iff : tree.isLive id = true ↔ ∃ node, tree.node? id = some node := by
  rw [isLive_eq, Option.isSome_iff_exists]

theorem isLive_eq_false_iff : tree.isLive id = false ↔ tree.node? id = none := by
  simp [isLive_eq]

theorem node?_eq_none_of_not_isLive (dead : ¬ tree.isLive id = true) : tree.node? id = none := by
  simpa [isLive_eq] using dead

theorem parent?_eq_none_of_not_isLive (dead : ¬ tree.isLive id = true) :
    tree.parent? id = none := by
  simp [parent?, node?_eq_none_of_not_isLive dead]

theorem children_eq_nil_of_not_isLive (dead : ¬ tree.isLive id = true) :
    tree.children id = [] := by
  simp [children, node?_eq_none_of_not_isLive dead]

theorem parent?_eq_some_iff {parent : WindowId} :
    tree.parent? id = some parent ↔ ∃ node, tree.node? id = some node ∧ node.parent = some parent :=
  Option.bind_eq_some_iff

theorem mem_children_iff {parent : WindowId} :
    id ∈ tree.children parent ↔ ∃ above, tree.node? parent = some above ∧ id ∈ above.children := by
  unfold children
  cases tree.node? parent <;> simp

/-- The desktop is always visible, every other live window as its style says. -/
theorem isVisible_eq (tree : Tree) (id : WindowId) :
    tree.isVisible id =
      (tree.kind? id == some .desktop || (tree.style? id).any Style.isVisible) := by
  unfold isVisible holds kind? style?
  cases tree.node? id <;> simp [Node.visible]

theorem isVisible_of_node? (found : tree.node? id = some node) :
    tree.isVisible id = node.visible := by
  simp [isVisible, holds, found]

theorem isTopmost_eq (tree : Tree) (id : WindowId) :
    tree.isTopmost id = (tree.kind? id == some (.topLevel true)) := by
  unfold isTopmost holds kind?
  cases tree.node? id <;> simp [Node.topmost]

theorem exists_of_holds {test : Node → Bool} (holds : tree.holds test id = true) :
    ∃ node, tree.node? id = some node ∧ test node = true :=
  (Option.any_eq_true _ _).mp holds

theorem holds_isTopLevel_iff :
    tree.holds Node.isTopLevel id = true ↔ ∃ flag, tree.kind? id = some (.topLevel flag) := by
  unfold holds kind?
  cases tree.node? id with
  | none => simp
  | some node => cases kindIs : node.kind <;> simp [Node.isTopLevel, kindIs]

theorem holds_stackedVisible_eq (tree : Tree) (id : WindowId) :
    tree.holds Node.stackedVisible id =
      (tree.isVisible id && !(tree.style? id).any Style.isMinimized) := by
  unfold isVisible holds style?
  cases tree.node? id <;> simp [Node.stackedVisible, Node.minimized]

end Questions

/-! ## Look-up after an elementary change -/

section Lookup

variable (tree : Tree) (id other : WindowId)

@[simp] theorem node?_addNode (node : Node) :
    (tree.addNode node).node? other = if other = node.id then some node else tree.node? other :=
  Table.get?_insert tree.nodes node.id other node

@[simp] theorem node?_dropNode :
    (tree.dropNode id).node? other = if other = id then none else tree.node? other :=
  Table.get?_erase tree.nodes id other

@[simp] theorem node?_updateNode (change : Node → Node) :
    (tree.updateNode id change).node? other =
      if other = id then (tree.node? other).map change else tree.node? other :=
  Table.get?_modify tree.nodes id other change

/-- Two changes of one window are one change. -/
theorem updateNode_updateNode (first second : Node → Node) :
    (tree.updateNode id first).updateNode id second =
      tree.updateNode id fun node => second (first node) := by
  have nodes : (tree.nodes.modify id first).modify id second =
      tree.nodes.modify id fun node => second (first node) := by
    apply Table.eq_of_entries
    simp only [Table.modify, Table.mapWithKey, List.map_map]
    refine List.map_congr_left fun entry _ => ?_
    by_cases isId : entry.1 = id <;> simp [isId]
  unfold updateNode
  rw [nodes]

/-- A change that leaves the window as it is changes nothing. -/
theorem updateNode_eq_self {change : Node → Node}
    (keeps : ∀ node, tree.node? id = some node → change node = node) :
    tree.updateNode id change = tree := by
  unfold updateNode
  rw [Table.modify_eq_self tree.nodes id keeps]

theorem node?_rescale (scale : Binary32) :
    (tree.rescale id scale).node? other =
      (tree.node? other).map fun node =>
        if other ∈ tree.subtree id then { node with scale } else node :=
  Table.get?_mapWithKey tree.nodes _ other

theorem node?_appendChild (parent : WindowId) :
    (tree.appendChild parent id).node? other =
      if other = parent then
        (tree.node? other).map fun node => { node with children := node.children ++ [id] }
      else tree.node? other :=
  node?_updateNode tree parent other _

theorem node?_unlink (parent : Option WindowId) :
    (tree.unlink parent id).node? other =
      if parent = some other then
        (tree.node? other).map fun node =>
          { node with children := Stacking.without node.children id }
      else tree.node? other := by
  cases parent with
  | none => rfl
  | some parent => simp only [unlink, node?_updateNode, Option.some.injEq, eq_comm]

end Lookup

theorem Stored.updateNode {tree : Tree} (stored : tree.Stored) (id : WindowId)
    {change : Node → Node} (keeps : ∀ node, (change node).id = node.id) :
    (tree.updateNode id change).Stored := by
  intro other node found
  rw [node?_updateNode] at found
  split at found
  · obtain ⟨former, formerFound, rfl⟩ := Option.map_eq_some_iff.mp found
    exact (keeps former).trans (stored other former formerFound)
  · exact stored other node found

theorem Stored.addNode {tree : Tree} (stored : tree.Stored) (node : Node) :
    (tree.addNode node).Stored := by
  intro other otherNode found
  rw [node?_addNode] at found
  split at found
  · next isOwn =>
      cases found
      exact isOwn.symm
  · exact stored other otherNode found

theorem Stored.dropNode {tree : Tree} (stored : tree.Stored) (id : WindowId) :
    (tree.dropNode id).Stored := by
  intro other node found
  rw [node?_dropNode] at found
  split at found
  · cases found
  · exact stored other node found

theorem Stored.appendChild {tree : Tree} (stored : tree.Stored) (parent id : WindowId) :
    (tree.appendChild parent id).Stored :=
  stored.updateNode parent fun _ => rfl

theorem Stored.unlink {tree : Tree} (stored : tree.Stored) (parent : Option WindowId)
    (id : WindowId) : (tree.unlink parent id).Stored := by
  cases parent with
  | none => exact stored
  | some parent => exact stored.updateNode parent fun _ => rfl

/-! ## Trees with the same nodes -/

section SameNodes

variable {first second : Tree} (nodes : first.nodes = second.nodes) (id : WindowId)

include nodes

theorem node?_congr : first.node? id = second.node? id := by
  unfold node?
  rw [nodes]

theorem kind?_congr : first.kind? id = second.kind? id := by
  unfold kind?
  rw [node?_congr nodes]

theorem style?_congr : first.style? id = second.style? id := by
  unfold style?
  rw [node?_congr nodes]

theorem parent?_congr : first.parent? id = second.parent? id := by
  unfold parent?
  rw [node?_congr nodes]

theorem children_congr : first.children id = second.children id := by
  unfold children
  rw [node?_congr nodes]

theorem Stored.congr (stored : second.Stored) : first.Stored := fun id node found =>
  stored id node ((node?_congr nodes id).symm.trans found)

end SameNodes

/-! ## Questions after an elementary change -/

section Changes

variable (tree : Tree) (id other : WindowId)

theorem kind?_addNode (node : Node) :
    (tree.addNode node).kind? other =
      if other = node.id then some node.kind else tree.kind? other := by
  unfold kind?
  rw [node?_addNode]
  split <;> rfl

theorem style?_addNode (node : Node) :
    (tree.addNode node).style? other =
      if other = node.id then some node.style else tree.style? other := by
  unfold style?
  rw [node?_addNode]
  split <;> rfl

theorem parent?_addNode (node : Node) :
    (tree.addNode node).parent? other =
      if other = node.id then node.parent else tree.parent? other := by
  unfold parent?
  rw [node?_addNode]
  split <;> rfl

theorem children_addNode (node : Node) :
    (tree.addNode node).children other =
      if other = node.id then node.children else tree.children other := by
  unfold children
  rw [node?_addNode]
  split <;> rfl

theorem kind?_dropNode :
    (tree.dropNode id).kind? other = if other = id then none else tree.kind? other := by
  unfold kind?
  rw [node?_dropNode]
  split <;> rfl

theorem style?_dropNode :
    (tree.dropNode id).style? other = if other = id then none else tree.style? other := by
  unfold style?
  rw [node?_dropNode]
  split <;> rfl

theorem parent?_dropNode :
    (tree.dropNode id).parent? other = if other = id then none else tree.parent? other := by
  unfold parent?
  rw [node?_dropNode]
  split <;> rfl

theorem children_dropNode :
    (tree.dropNode id).children other = if other = id then [] else tree.children other := by
  unfold children
  rw [node?_dropNode]
  split <;> rfl

theorem kind?_updateNode (change : Node → Node) :
    (tree.updateNode id change).kind? other =
      if other = id then (tree.node? other).map fun node => (change node).kind
      else tree.kind? other := by
  unfold kind?
  rw [node?_updateNode]
  split <;> simp [Function.comp_def]

theorem style?_updateNode (change : Node → Node) :
    (tree.updateNode id change).style? other =
      if other = id then (tree.node? other).map fun node => (change node).style
      else tree.style? other := by
  unfold style?
  rw [node?_updateNode]
  split <;> simp [Function.comp_def]

theorem parent?_updateNode (change : Node → Node) :
    (tree.updateNode id change).parent? other =
      if other = id then (tree.node? other).bind fun node => (change node).parent
      else tree.parent? other := by
  unfold parent?
  rw [node?_updateNode]
  split
  · cases tree.node? other <;> rfl
  · rfl

theorem children_updateNode {change : Node → Node}
    (keeps : ∀ node, (change node).children = node.children) :
    (tree.updateNode id change).children other = tree.children other := by
  unfold children
  rw [node?_updateNode]
  split <;> simp [Function.comp_def, keeps]

@[simp] theorem kind?_appendChild (parent : WindowId) :
    (tree.appendChild parent id).kind? other = tree.kind? other := by
  unfold kind?
  rw [node?_appendChild]
  split <;> simp [Function.comp_def]

@[simp] theorem style?_appendChild (parent : WindowId) :
    (tree.appendChild parent id).style? other = tree.style? other := by
  unfold style?
  rw [node?_appendChild]
  split <;> simp [Function.comp_def]

@[simp] theorem parent?_appendChild (parent : WindowId) :
    (tree.appendChild parent id).parent? other = tree.parent? other := by
  unfold parent?
  rw [node?_appendChild]
  split
  · cases tree.node? other <;> rfl
  · rfl

theorem children_appendChild {parent : WindowId} (live : tree.isLive parent = true) :
    (tree.appendChild parent id).children other =
      tree.children other ++ if other = parent then [id] else [] := by
  unfold children
  rw [node?_appendChild]
  by_cases isParent : other = parent
  · obtain ⟨node, found⟩ := isLive_iff.mp live
    simp [isParent, found]
  · simp [isParent]

@[simp] theorem kind?_unlink (parent : Option WindowId) :
    (tree.unlink parent id).kind? other = tree.kind? other := by
  unfold kind?
  rw [node?_unlink]
  split <;> simp [Function.comp_def]

@[simp] theorem style?_unlink (parent : Option WindowId) :
    (tree.unlink parent id).style? other = tree.style? other := by
  unfold style?
  rw [node?_unlink]
  split <;> simp [Function.comp_def]

@[simp] theorem parent?_unlink (parent : Option WindowId) :
    (tree.unlink parent id).parent? other = tree.parent? other := by
  unfold parent?
  rw [node?_unlink]
  split
  · cases tree.node? other <;> rfl
  · rfl

theorem children_unlink (parent : Option WindowId) :
    (tree.unlink parent id).children other =
      if parent = some other then Stacking.without (tree.children other) id
      else tree.children other := by
  unfold children
  rw [node?_unlink]
  by_cases isParent : parent = some other
  · cases tree.node? other <;> simp [isParent, Stacking.without]
  · simp [isParent]

end Changes

/-! ## A parent that waits for a child -/

/-- The tree in which `target`, if there is one, already lists a new child. -/
def awaiting (tree : Tree) (target : Option WindowId) (id : WindowId) : Tree :=
  match target with
  | none => tree
  | some parent => tree.appendChild parent id

theorem node?_awaiting (tree : Tree) (target : Option WindowId) (id other : WindowId) :
    (tree.awaiting target id).node? other = (tree.node? other).map fun node =>
      { node with children := node.children ++ if target = some other then [id] else [] } := by
  cases target with
  | none => simp [awaiting]
  | some parent =>
      rw [awaiting, node?_appendChild]
      by_cases isParent : other = parent
      · simp [isParent]
      · simp [isParent, Ne.symm isParent]

@[simp] theorem kind?_awaiting (tree : Tree) (target : Option WindowId) (id other : WindowId) :
    (tree.awaiting target id).kind? other = tree.kind? other := by
  cases target <;> simp [awaiting]

@[simp] theorem style?_awaiting (tree : Tree) (target : Option WindowId) (id other : WindowId) :
    (tree.awaiting target id).style? other = tree.style? other := by
  cases target <;> simp [awaiting]

@[simp] theorem parent?_awaiting (tree : Tree) (target : Option WindowId) (id other : WindowId) :
    (tree.awaiting target id).parent? other = tree.parent? other := by
  cases target <;> simp [awaiting]

theorem children_awaiting {tree : Tree} {id : WindowId} {target : Option WindowId}
    (live : ∀ parent, target = some parent → tree.isLive parent = true) (other : WindowId) :
    (tree.awaiting target id).children other =
      tree.children other ++ if target = some other then [id] else [] := by
  cases target with
  | none => simp [awaiting]
  | some parent =>
      simp only [awaiting, children_appendChild tree id other (live parent rfl),
        Option.some.injEq, eq_comm]

theorem Stored.awaiting {tree : Tree} (stored : tree.Stored) (target : Option WindowId)
    (id : WindowId) : (tree.awaiting target id).Stored := by
  cases target with
  | none => exact stored
  | some parent => exact stored.appendChild parent id

end Tree

end WindowRelay
