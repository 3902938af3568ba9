import WindowRelay.Proofs.Tree.Removal

/-!
Contract: the walks through a tree, with nothing that bounds them.

Owns:
- the walk from a window to the windows above it;
- the order in which a walk down visits windows: a window, all below its front-most child, all below
  the next one, and so on;
- the loop that gives a scale to a subtree, and the calls that tear one down; both go in that order;
- on a forest each of these walks ends, in one way only and with the result of the bounded walk.

Does not own: the walk that sets up views, which needs a host (`Proofs.Desk.Walks`).

The definitions of the tree cut each walk at the number of windows. Here a walk has one rule for each
of its steps and no number to count down, so there is a derivation only where the walk comes to an
end: where links go round in a circle, a walk that enters the circle has none.
-/

namespace WindowRelay

/-- A walk ends in one way only: it goes through these windows and has this result. -/
def Ends {α : Type} (walk : List WindowId → α → Prop) (windows : List WindowId) (result : α) :
    Prop :=
  ∀ trace outcome, walk trace outcome ↔ trace = windows ∧ outcome = result

theorem ends_of_unique {α : Type} {walk : List WindowId → α → Prop} {windows : List WindowId}
    {result : α} (ran : walk windows result)
    (unique : ∀ trace outcome, walk trace outcome → trace = windows ∧ outcome = result) :
    Ends walk windows result := by
  intro trace outcome
  constructor
  · exact unique trace outcome
  · rintro ⟨rfl, rfl⟩
    exact ran

namespace Tree

variable {tree : Tree} {id ancestor : WindowId} {roots visited : List WindowId}

/-! ## Upwards -/

/-- The walk up from a window in search of an ancestor: the parents to which it comes, and whether
the ancestor is one of them. -/
inductive Climbs (tree : Tree) (ancestor : WindowId) :
    WindowId → List WindowId → Bool → Prop where
  | top {window : WindowId} (parentless : tree.parent? window = none) :
      Climbs tree ancestor window [] false
  | arrive {window : WindowId} (link : tree.parent? window = some ancestor) :
      Climbs tree ancestor window [ancestor] true
  | pass {window parent : WindowId} {passed : List WindowId} {found : Bool}
      (link : tree.parent? window = some parent) (different : parent ≠ ancestor)
      (onwards : Climbs tree ancestor parent passed found) :
      Climbs tree ancestor window (parent :: passed) found

theorem Climbs.unique {passed otherPassed : List WindowId} {found otherFound : Bool}
    (first : Climbs tree ancestor id passed found)
    (second : Climbs tree ancestor id otherPassed otherFound) :
    otherPassed = passed ∧ otherFound = found := by
  induction first generalizing otherPassed otherFound with
  | top parentless =>
      cases second with
      | top => exact ⟨rfl, rfl⟩
      | arrive link | pass link => rw [parentless] at link; cases link
  | arrive link =>
      cases second with
      | top parentless => rw [parentless] at link; cases link
      | arrive => exact ⟨rfl, rfl⟩
      | pass otherLink different =>
          exact absurd (Option.some.inj (otherLink.symm.trans link)) different
  | @pass window parent passed found link different onwards inductionHypothesis =>
      cases second with
      | top parentless => rw [parentless] at link; cases link
      | arrive otherLink => exact absurd (Option.some.inj (link.symm.trans otherLink)) different
      | pass otherLink _ otherOnwards =>
          obtain rfl := Option.some.inj (link.symm.trans otherLink)
          obtain ⟨rfl, rfl⟩ := inductionHypothesis otherOnwards
          exact ⟨rfl, rfl⟩

theorem exists_climbs_of_ascent {chain : List WindowId} (ascent : Ascent tree.parent? id chain)
    (ancestor : WindowId) :
    ∃ passed, passed <+: chain ∧ Climbs tree ancestor id passed (chain.contains ancestor) := by
  induction ascent with
  | root parentless => exact ⟨[], List.prefix_rfl, .top parentless⟩
  | @step window parent rest link above inductionHypothesis =>
      by_cases arrives : parent = ancestor
      · subst arrives
        exact ⟨[parent], by simp, by simpa using Climbs.arrive link⟩
      · obtain ⟨passed, isPrefix, onwards⟩ := inductionHypothesis
        have different : ancestor ≠ parent := Ne.symm arrives
        exact ⟨parent :: passed, (List.prefix_cons_inj parent).mpr isPrefix,
          by simpa [different] using Climbs.pass link arrives onwards⟩

/-- A window has fewer windows above it than there are. -/
theorem length_le_of_prefix_ancestors (forest : tree.Forest) {above : List WindowId}
    (isPrefix : above <+: tree.ancestors id) : above.length ≤ tree.size - 1 := by
  have shorter := isPrefix.length_le
  by_cases live : tree.isLive id = true
  · have inside := forest.length_ancestors_lt live
    omega
  · have noneAbove := forest.ancestors_of_root (parent?_eq_none_of_not_isLive live)
    rw [noneAbove, List.length_nil] at shorter
    omega

theorem ends_climbs (forest : tree.Forest) (candidate ancestor : WindowId) :
    ∃ passed, Ends (Climbs tree ancestor candidate) passed (tree.isBelow candidate ancestor) ∧
      passed.length ≤ tree.size - 1 := by
  obtain ⟨passed, isPrefix, climbs⟩ :=
    exists_climbs_of_ascent (forest.ascent_ancestors candidate) ancestor
  exact ⟨passed, ends_of_unique climbs fun _ _ other => climbs.unique other,
    length_le_of_prefix_ancestors forest isPrefix⟩

/-! ## Downwards -/

/-- The windows that a walk down from some roots visits, in order. -/
inductive Visits (tree : Tree) : List WindowId → List WindowId → Prop where
  | done : Visits tree [] []
  | visit {window : WindowId} {rest below later : List WindowId}
      (inside : Visits tree (tree.children window).reverse below)
      (outside : Visits tree rest later) :
      Visits tree (window :: rest) (window :: (below ++ later))

/-- What holds of a window as soon as it holds of its children holds of every window. -/
theorem Forest.children_induction (forest : tree.Forest) {motive : WindowId → Prop}
    (step : ∀ window, (∀ child ∈ tree.children window, motive child) → motive window)
    (window : WindowId) : motive window := by
  -- Every step down needs one level less, and no live window is left where no level is.
  have within : ∀ levels window, tree.size ≤ levels + (tree.ancestors window).length →
      motive window := by
    intro levels
    induction levels with
    | zero =>
        intro window enough
        have dead : ¬ tree.isLive window = true := fun live => by
          have inside := forest.length_ancestors_lt live
          omega
        refine step window fun child member => ?_
        rw [children_eq_nil_of_not_isLive dead] at member
        cases member
    | succ levels inductionHypothesis =>
        intro window enough
        refine step window fun child member => inductionHypothesis child ?_
        have depth := forest.length_ancestors_of_mem_children member
        omega
  exact within tree.size window (Nat.le_add_right _ _)

theorem exists_visits (forest : tree.Forest) (roots : List WindowId) :
    ∃ visited, Visits tree roots visited := by
  have each : ∀ roots : List WindowId,
      (∀ root ∈ roots, ∃ below, Visits tree (tree.children root).reverse below) →
      ∃ visited, Visits tree roots visited := by
    intro roots inside
    induction roots with
    | nil => exact ⟨[], .done⟩
    | cons root rest inductionHypothesis =>
        obtain ⟨below, visitsBelow⟩ := inside root (by simp)
        obtain ⟨later, visitsLater⟩ :=
          inductionHypothesis fun other member => inside other (by simp [member])
        exact ⟨_, .visit visitsBelow visitsLater⟩
  have below : ∀ window, ∃ below, Visits tree (tree.children window).reverse below :=
    forest.children_induction fun window inside =>
      each _ fun child member => inside child (List.mem_reverse.mp member)
  exact each roots fun root _ => below root

namespace Visits

theorem nothing (visits : Visits tree [] visited) : visited = [] := by
  cases visits
  rfl

theorem roots_subset (visits : Visits tree roots visited) : roots ⊆ visited := by
  induction visits with
  | done => exact List.Subset.refl []
  | visit inside outside _ laterHypothesis =>
      intro root member
      rcases List.mem_cons.mp member with isWindow | inRest
      · simp [isWindow]
      · simp [laterHypothesis inRest]

/-- The walk visits the subtrees of its roots. -/
theorem perm_subtree (forest : tree.Forest) (visits : Visits tree roots visited)
    (live : ∀ root ∈ roots, tree.isLive root = true) :
    visited.Perm (roots.flatMap tree.subtree) := by
  induction visits with
  | done => exact List.Perm.refl []
  | @visit window rest below later inside outside belowHypothesis laterHypothesis =>
      have childrenLive : ∀ child ∈ (tree.children window).reverse, tree.isLive child = true :=
        fun child member => (forest.isLive_of_child
          ((forest.links.linked child window).mpr (List.mem_reverse.mp member))).1
      have here : (window :: below).Perm (tree.subtree window) := by
        rw [subtree_of_live forest (live window (by simp))]
        exact ((belowHypothesis childrenLive).cons window).trans
          (List.perm_append_singleton _ _).symm
      rw [List.flatMap_cons, ← List.cons_append]
      exact here.append (laterHypothesis fun root member => live root (by simp [member]))

/-- A walk from one root visits the root first. -/
theorem exists_below (visits : Visits tree [id] visited) :
    ∃ below, visited = id :: below ∧ Visits tree (tree.children id).reverse below := by
  cases visits with
  | @visit _ _ below later inside outside =>
      obtain rfl := outside.nothing
      exact ⟨below, by rw [List.append_nil], inside⟩

/-- Below an unknown window there is nothing to visit. -/
theorem of_dead (visits : Visits tree [id] visited) (dead : ¬ tree.isLive id = true) :
    visited = [id] := by
  obtain ⟨below, rfl, inside⟩ := visits.exists_below
  rw [children_eq_nil_of_not_isLive dead] at inside
  rw [inside.nothing]

/-- From a live window, the walk visits its subtree. -/
theorem perm_subtree_of_live (forest : tree.Forest) (visits : Visits tree [id] visited)
    (live : tree.isLive id = true) : visited.Perm (tree.subtree id) := by
  simpa using visits.perm_subtree forest (by simpa using live)

theorem nodup (forest : tree.Forest) (visits : Visits tree [id] visited) : visited.Nodup := by
  by_cases live : tree.isLive id = true
  · exact (visits.perm_subtree_of_live forest live).nodup_iff.mpr (nodup_subtree forest id)
  · exact visits.of_dead live ▸ List.nodup_singleton id

theorem mem_iff (forest : tree.Forest) (visits : Visits tree [id] visited) {other : WindowId} :
    other ∈ visited ↔ other = id ∨ tree.Descends id other := by
  by_cases live : tree.isLive id = true
  · rw [(visits.perm_subtree_of_live forest live).mem_iff]
    exact mem_subtree_iff_descends forest live
  · have nothingBelow : ¬ tree.Descends id other := fun descends =>
      live (forest.isLive_of_mem_ascent (forest.ascent_ancestors other)
        ((mem_ancestors_iff forest).mpr descends))
    simp [visits.of_dead live, nothingBelow]

end Visits

/-- No window descends from itself. -/
theorem not_descends_self (forest : tree.Forest) (id : WindowId) : ¬ tree.Descends id id := by
  intro descends
  exact (List.nodup_cons.mp (forest.ascent_ancestors id).nodup).1
    ((mem_ancestors_iff forest).mpr descends)

/-! ## Scales -/

/-- The loop that gives a scale to pending windows: the one in front is taken, gets the scale, and
its children come in front of the others. It takes these windows and leaves this tree. -/
inductive Rescales (scale : Binary32) : Tree → List WindowId → List WindowId → Tree → Prop where
  | done {tree : Tree} : Rescales scale tree [] [] tree
  | unknown {tree after : Tree} {window : WindowId} {pending taken : List WindowId}
      (dead : tree.node? window = none) (rest : Rescales scale tree pending taken after) :
      Rescales scale tree (window :: pending) (window :: taken) after
  | take {tree after : Tree} {window : WindowId} {node : Node} {pending taken : List WindowId}
      (found : tree.node? window = some node)
      (rest : Rescales scale (tree.updateNode window fun node => { node with scale })
        (node.children.reverse ++ pending) taken after) :
      Rescales scale tree (window :: pending) (window :: taken) after

section Rescaling

variable {scale : Binary32} {pending taken : List WindowId} {after : Tree}

theorem Rescales.unique {otherTaken : List WindowId} {otherAfter : Tree}
    (first : Rescales scale tree pending taken after)
    (second : Rescales scale tree pending otherTaken otherAfter) :
    otherTaken = taken ∧ otherAfter = after := by
  induction first generalizing otherTaken otherAfter with
  | done =>
      cases second
      exact ⟨rfl, rfl⟩
  | unknown dead rest inductionHypothesis =>
      cases second with
      | unknown _ otherRest =>
          obtain ⟨rfl, rfl⟩ := inductionHypothesis otherRest
          exact ⟨rfl, rfl⟩
      | take found => rw [dead] at found; cases found
  | take found rest inductionHypothesis =>
      cases second with
      | unknown dead => rw [dead] at found; cases found
      | take otherFound otherRest =>
          obtain rfl := Option.some.inj (found.symm.trans otherFound)
          obtain ⟨rfl, rfl⟩ := inductionHypothesis otherRest
          exact ⟨rfl, rfl⟩

/-- The tree in which some windows have a scale. -/
def scaled (tree : Tree) (scale : Binary32) (windows : List WindowId) : Tree :=
  { tree with
    nodes := tree.nodes.mapWithKey fun key node =>
      if key ∈ windows then { node with scale } else node }

theorem scaled_congr {first second : List WindowId}
    (members : ∀ window, tree.isLive window = true → (window ∈ first ↔ window ∈ second)) :
    tree.scaled scale first = tree.scaled scale second := by
  refine congrArg (fun nodes => { tree with nodes }) (Table.eq_of_entries ?_)
  refine List.map_congr_left fun entry member => ?_
  have live : tree.isLive entry.1 = true :=
    isLive_iff.mpr ⟨entry.2, tree.nodes.get?_of_mem member⟩
  simp only [members entry.1 live]

theorem scaled_nil (tree : Tree) (scale : Binary32) : tree.scaled scale [] = tree := by
  refine congrArg (fun nodes => { tree with nodes }) (Table.eq_of_entries ?_)
  simp [Table.mapWithKey]

theorem scaled_of_dead (dead : tree.node? id = none) : tree.scaled scale [id] = tree := by
  refine Eq.trans (scaled_congr fun window live => ?_) (scaled_nil tree scale)
  have different : window ≠ id := fun same => by simp [isLive_eq, same, dead] at live
  simp [different]

theorem scaled_singleton (tree : Tree) (scale : Binary32) (window : WindowId) :
    tree.scaled scale [window] = tree.updateNode window fun node => { node with scale } := by
  refine congrArg (fun nodes => { tree with nodes }) (Table.eq_of_entries ?_)
  simp [Table.mapWithKey, Table.modify]

theorem scaled_scaled (tree : Tree) (scale : Binary32) (first second : List WindowId) :
    (tree.scaled scale first).scaled scale second = tree.scaled scale (first ++ second) := by
  refine congrArg (fun nodes => { tree with nodes }) (Table.eq_of_entries ?_)
  simp only [scaled, Table.mapWithKey, List.map_map]
  refine List.map_congr_left fun entry _ => ?_
  by_cases inFirst : entry.1 ∈ first <;> by_cases inSecond : entry.1 ∈ second <;>
    simp [inFirst, inSecond]

theorem children_scaled (tree : Tree) (scale : Binary32) (windows : List WindowId)
    (other : WindowId) : (tree.scaled scale windows).children other = tree.children other := by
  have found : (tree.scaled scale windows).node? other = (tree.node? other).map fun node =>
      if other ∈ windows then { node with scale } else node :=
    Table.get?_mapWithKey tree.nodes _ other
  rw [children, children, found, Option.map_map]
  congr 2
  funext node
  by_cases gets : other ∈ windows <;> simp [gets]

/-- The loop takes its windows in the order of the walk down, since scales leave the links alone. -/
theorem rescales_of_visits (visits : Visits tree roots visited) {current : Tree}
    (sameLists : ∀ window, current.children window = tree.children window)
    (rest : Rescales scale (current.scaled scale visited) pending taken after) :
    Rescales scale current (roots ++ pending) (visited ++ taken) after := by
  induction visits generalizing current pending taken with
  | done =>
      rw [scaled_nil] at rest
      exact rest
  | @visit window others below later inside outside belowHypothesis laterHypothesis =>
      have sameAfter : ∀ windows other,
          (current.scaled scale windows).children other = tree.children other :=
        fun windows other => (children_scaled current scale windows other).trans (sameLists other)
      -- After the window come all below it, and then the other roots.
      have onwards : Rescales scale (current.scaled scale [window])
          ((tree.children window).reverse ++ (others ++ pending)) (below ++ (later ++ taken))
          after := by
        refine belowHypothesis (sameAfter [window]) ?_
        rw [scaled_scaled]
        refine laterHypothesis (sameAfter _) ?_
        rw [scaled_scaled]
        exact rest
      rw [List.cons_append, List.cons_append, List.append_assoc]
      cases found : current.node? window with
      | none =>
          have childless : tree.children window = [] := by
            rw [← sameLists, children, found]
            rfl
          rw [childless] at inside
          rw [childless, inside.nothing, scaled_of_dead found] at onwards
          rw [inside.nothing]
          exact .unknown found onwards
      | some node =>
          rw [scaled_singleton, ← sameLists, children_of_node? found] at onwards
          exact .take found onwards

theorem ends_rescales (forest : tree.Forest) (id : WindowId) (scale : Binary32) :
    ∃ taken, Ends (Rescales scale tree [id]) taken (tree.rescale id scale) ∧ taken.Nodup ∧
      ∀ other, other ∈ taken ↔ other = id ∨ tree.Descends id other := by
  obtain ⟨visited, visits⟩ := exists_visits forest [id]
  have subtree : tree.scaled scale visited = tree.rescale id scale := by
    refine scaled_congr fun window live => ?_
    rw [visits.mem_iff forest, mem_subtree_iff forest, mem_ancestors_iff forest]
    simp [live]
  have rescales : Rescales scale tree ([id] ++ []) (visited ++ []) (tree.scaled scale visited) :=
    rescales_of_visits visits (fun _ => rfl) .done
  rw [List.append_nil, List.append_nil, subtree] at rescales
  exact ⟨visited, ends_of_unique rescales fun _ _ other => rescales.unique other,
    visits.nodup forest, fun _ => visits.mem_iff forest⟩

end Rescaling

/-! ## Teardown -/

/-- The calls that tear windows down: a call tears down the children of its window, front-most
child first, each by a call, and then takes down the window itself. For the windows in the first
list there are these calls, in order, and they make of a change this one. -/
inductive TearsDown : Change → List WindowId → List WindowId → Change → Prop where
  | done {change : Change} : TearsDown change [] [] change
  | gone {change last : Change} {window : WindowId} {rest later : List WindowId}
      (dead : change.tree.node? window = none) (outside : TearsDown change rest later last) :
      TearsDown change (window :: rest) (window :: later) last
  | call {change middle last : Change} {window : WindowId} {node : Node}
      {rest below later : List WindowId} (found : change.tree.node? window = some node)
      (inside : TearsDown change node.children.reverse below middle)
      (outside : TearsDown (middle.followedBy (·.destroyOne window)) rest later last) :
      TearsDown change (window :: rest) (window :: (below ++ later)) last

section Teardown

variable {change last : Change} {called : List WindowId}

theorem TearsDown.unique {otherCalled : List WindowId} {otherLast : Change}
    (first : TearsDown change roots called last)
    (second : TearsDown change roots otherCalled otherLast) :
    otherCalled = called ∧ otherLast = last := by
  induction first generalizing otherCalled otherLast with
  | done =>
      cases second
      exact ⟨rfl, rfl⟩
  | gone dead outside outsideHypothesis =>
      cases second with
      | gone _ otherOutside =>
          obtain ⟨rfl, rfl⟩ := outsideHypothesis otherOutside
          exact ⟨rfl, rfl⟩
      | call found => rw [dead] at found; cases found
  | call found inside outside insideHypothesis outsideHypothesis =>
      cases second with
      | gone dead => rw [dead] at found; cases found
      | call otherFound otherInside otherOutside =>
          obtain rfl := Option.some.inj (found.symm.trans otherFound)
          obtain ⟨rfl, rfl⟩ := insideHypothesis otherInside
          obtain ⟨rfl, rfl⟩ := outsideHypothesis otherOutside
          exact ⟨rfl, rfl⟩

/-- Windows that are taken down one after the other. -/
def takenDown (change : Change) (windows : List WindowId) : Change :=
  windows.foldl (fun change window => change.followedBy (·.destroyOne window)) change

theorem takenDown_append (change : Change) (first second : List WindowId) :
    takenDown change (first ++ second) = takenDown (takenDown change first) second :=
  List.foldl_append

theorem destroy_eq_takenDown (tree : Tree) (id : WindowId) :
    tree.destroy id = takenDown { tree } (tree.subtree id) :=
  rfl

/-- What is left when a list of windows is gone, and nothing else. -/
structure Remains (tree : Tree) (change last : Change) (gone : List WindowId) : Prop where
  leaves : Leaves tree last.tree
  forest : last.tree.Forest
  live : ∀ window, last.tree.isLive window = (change.tree.isLive window && !gone.contains window)

namespace Remains

variable {gone : List WindowId}

theorem stays (remains : Remains tree change last gone) (live : change.tree.isLive id = true)
    (notGone : id ∉ gone) : last.tree.isLive id = true := by
  simp [remains.live, live, notGone]

theorem childless (remains : Remains tree change last gone) (live : last.tree.isLive id = true)
    (done : tree.children id ⊆ gone) : last.tree.children id = [] := by
  rw [remains.leaves.children live, List.filter_eq_nil_iff]
  intro child member
  simp [remains.live, done member]

theorem takeDown (remains : Remains tree change last gone) (live : last.tree.isLive id = true)
    (childless : last.tree.children id = []) :
    Remains tree change (last.followedBy (·.destroyOne id)) (id :: gone) where
  leaves := remains.leaves.destroyOne remains.forest live
  forest := remains.forest.ofRehomed (rehomed_destroyOne remains.forest live childless)
  live other := by
    show (last.tree.destroyOne id).tree.isLive other = _
    rw [isLive_destroyOne, remains.live, List.contains_cons, Bool.not_or, bne, Bool.and_left_comm]

theorem trans {middle : Change} {more : List WindowId}
    (first : Remains tree change middle gone) (second : Remains tree middle last more) :
    Remains tree change last (gone ++ more) where
  leaves := second.leaves
  forest := second.forest
  live window := by simp [second.live, first.live, Bool.and_assoc]

end Remains

/-- The calls come in the order of the walk down, though the windows go in another one: a call reads
the children of its window while all of them are still there. -/
theorem tearsDown_of_visits (forest : tree.Forest) (visits : Visits tree roots visited)
    (leaves : Leaves tree change.tree) (left : change.tree.Forest)
    (live : ∀ window ∈ visited, change.tree.isLive window = true) (distinct : visited.Nodup) :
    TearsDown change roots visited (takenDown change (roots.flatMap tree.subtree)) ∧
      Remains tree change (takenDown change (roots.flatMap tree.subtree)) visited := by
  induction visits generalizing change with
  | done => exact ⟨.done, leaves, left, fun window => by simp [takenDown]⟩
  | @visit window rest below later inside outside belowHypothesis laterHypothesis =>
      obtain ⟨windowOnce, othersOnce⟩ := List.nodup_cons.mp distinct
      obtain ⟨belowOnce, laterOnce, apart⟩ := List.nodup_append.mp othersOnce
      have windowLive := live window (by simp)
      have childrenBelow : tree.children window ⊆ below := fun child member =>
        inside.roots_subset (List.mem_reverse.mpr member)
      -- The call sees the children that the window had at the beginning.
      obtain ⟨node, found⟩ := isLive_iff.mp windowLive
      have sameChildren : node.children = tree.children window := by
        rw [← children_of_node? found, leaves.children windowLive]
        exact List.filter_eq_self.mpr fun child member =>
          live child (by simp [childrenBelow member])
      obtain ⟨callsBelow, remainsBelow⟩ := belowHypothesis leaves left
        (fun other member => live other (by simp [member])) belowOnce
      -- When they are gone, the window is still there and has no child.
      have stays := remainsBelow.stays windowLive fun member => windowOnce (by simp [member])
      have remainsHere := remainsBelow.takeDown stays (remainsBelow.childless stays childrenBelow)
      have notHere : ∀ other ∈ later, other ∉ window :: below := by
        intro other member here
        rcases List.mem_cons.mp here with rfl | inBelow
        · exact windowOnce (by simp [member])
        · exact apart other inBelow other member rfl
      obtain ⟨callsLater, remainsLater⟩ := laterHypothesis remainsHere.leaves remainsHere.forest
        (fun other member => remainsHere.stays (live other (by simp [member]))
          (notHere other member)) laterOnce
      have order : takenDown change ((window :: rest).flatMap tree.subtree) =
          takenDown ((takenDown change ((tree.children window).reverse.flatMap
            tree.subtree)).followedBy (·.destroyOne window)) (rest.flatMap tree.subtree) := by
        rw [List.flatMap_cons, subtree_of_live forest (leaves.isLive windowLive), takenDown_append,
          takenDown_append]
        rfl
      rw [order]
      exact ⟨.call found (sameChildren ▸ callsBelow) callsLater, remainsHere.trans remainsLater⟩

/-- The calls come to an end: one for the window, and then one for each window below it. -/
theorem ends_tearsDown (forest : tree.Forest) (id : WindowId) :
    ∃ below, Ends (TearsDown { tree } [id]) (id :: below) (tree.destroy id) ∧ below.Nodup ∧
      ∀ other, other ∈ below ↔ tree.Descends id other := by
  obtain ⟨visited, visits⟩ := exists_visits forest [id]
  obtain ⟨below, rfl, -⟩ := visits.exists_below
  obtain ⟨notBelow, once⟩ := List.nodup_cons.mp (visits.nodup forest)
  have belowIff : ∀ other, other ∈ below ↔ tree.Descends id other := by
    intro other
    have either : other ∈ id :: below ↔ other = id ∨ tree.Descends id other :=
      visits.mem_iff forest
    by_cases isId : other = id
    · subst isId
      exact iff_of_false notBelow (not_descends_self forest other)
    · simpa [isId] using either
  have calls : TearsDown { tree } [id] (id :: below) (tree.destroy id) := by
    by_cases live : tree.isLive id = true
    · have all : ∀ window ∈ id :: below, tree.isLive window = true := fun window member =>
        isLive_of_mem_subtreeWithin ((visits.perm_subtree_of_live forest live).mem_iff.mp member)
      have torn : TearsDown { tree } [id] (id :: below)
          (takenDown { tree } ([id].flatMap tree.subtree)) :=
        (tearsDown_of_visits forest visits (leaves_self forest) forest all
          (visits.nodup forest)).1
      rw [List.flatMap_singleton, ← destroy_eq_takenDown] at torn
      exact torn
    · rw [destroy_of_dead live, visits.of_dead live]
      exact .gone (node?_eq_none_of_not_isLive live) .done
  exact ⟨below, ends_of_unique calls fun _ _ other => calls.unique other, once, belowIff⟩

end Teardown

end Tree

end WindowRelay
