import WindowRelay.Proofs.Desk.Views
import WindowRelay.Proofs.Scene.Titles
import WindowRelay.Proofs.Tree.Records

/-!
Contract: the title of the activity, and which events tell the host about it.

Owns:
- what the front title is: the title of the first window, from the front, that gives one;
- a change either keeps the front title and is mute about it, or announces it at its end;
- every accepted event tells the host once about a front title that became another one, and
  otherwise nothing.

Announcing compares with the title that was told last, so it may stand behind any change. What has
to be shown is that the changes without it keep the front title.
-/

namespace WindowRelay

/-! ## The front title -/

/-- A window gives a title: an unowned visible top-level window with a text. -/
structure Node.GivesTitle (node : Node) (title : ActivityTitle) : Prop where
  isTopLevel : ∃ flag, node.kind = .topLevel flag
  unowned : node.owner = WindowId.absent
  visible : node.style.isVisible = true
  text : node.title = some title.text
  icon : node.icon = title.icon

theorem Node.activityTitle_eq_some_iff {node : Node} {title : ActivityTitle} :
    node.activityTitle = some title ↔ node.GivesTitle title := by
  obtain ⟨text, icon⟩ := title
  constructor
  · intro gives
    unfold Node.activityTitle at gives
    split at gives
    · next conditions =>
        simp only [Node.isTopLevel, Node.visible, Bool.and_eq_true, Bool.or_eq_true,
          beq_iff_eq] at conditions
        obtain ⟨written, isText, same⟩ := Option.map_eq_some_iff.mp gives
        cases same
        obtain ⟨⟨isTopLevel, unowned⟩, visible⟩ := conditions
        split at isTopLevel
        · next flag kindIs =>
            exact ⟨⟨flag, kindIs⟩, unowned, visible.resolve_left (by simp [kindIs]), isText, rfl⟩
        · cases isTopLevel
    · cases gives
  · rintro ⟨⟨flag, kindIs⟩, unowned, visible, isText, isIcon⟩
    simp [Node.activityTitle, Node.isTopLevel, Node.visible, kindIs, unowned, visible, isText,
      isIcon]

theorem Node.activityTitle_of_not_isTopLevel {node : Node} (other : node.isTopLevel = false) :
    node.activityTitle = none := by
  simp [Node.activityTitle, other]

theorem Node.activityTitle_of_untitled {node : Node} (untitled : node.title = none) :
    node.activityTitle = none := by
  simp [Node.activityTitle, untitled]

namespace Tree

variable {tree : Tree} {id target : WindowId} {node : Node} {change : Change}
  {hasViews : WindowId → Bool} {event : TreeEvent}

/-- The title that the activity should show: that of the first window, seen from the front, that
gives one. -/
def ShowsTitle (tree : Tree) : Option ActivityTitle → Prop
  | some title => ∃ back id front node, tree.order = back ++ id :: front ∧
      tree.node? id = some node ∧ node.GivesTitle title ∧
      ∀ other ∈ front, ∀ otherNode, tree.node? other = some otherNode →
        ∀ otherTitle, ¬ otherNode.GivesTitle otherTitle
  | none => ∀ id ∈ tree.order, ∀ node, tree.node? id = some node →
      ∀ title, ¬ node.GivesTitle title

/-- The title that a live window gives, if it gives one. -/
def title? (tree : Tree) (id : WindowId) : Option ActivityTitle :=
  (tree.node? id).bind Node.activityTitle

theorem title?_eq_some_iff {title : ActivityTitle} :
    tree.title? id = some title ↔ ∃ node, tree.node? id = some node ∧ node.GivesTitle title := by
  simp only [title?, Option.bind_eq_some_iff, Node.activityTitle_eq_some_iff]

theorem title?_eq_none_iff :
    tree.title? id = none ↔
      ∀ node, tree.node? id = some node → ∀ title, ¬ node.GivesTitle title := by
  constructor
  · intro gives node found title titled
    have isThere := title?_eq_some_iff.mpr ⟨node, found, titled⟩
    rw [gives] at isThere
    cases isThere
  · intro none
    cases gives : tree.title? id with
    | none => rfl
    | some title =>
        obtain ⟨node, found, titled⟩ := title?_eq_some_iff.mp gives
        exact absurd titled (none node found title)

/-- The title that should be shown is the one that is computed from the order. -/
theorem showsTitle_iff {title : Option ActivityTitle} :
    tree.ShowsTitle title ↔ tree.frontTitle = title := by
  have computed : tree.frontTitle = tree.order.reverse.findSome? tree.title? := rfl
  rw [computed]
  cases title with
  | none => simp only [ShowsTitle, ← title?_eq_none_iff, List.findSome?_eq_none_iff,
      List.mem_reverse]
  | some title =>
      rw [List.findSome?_eq_some_iff]
      constructor
      · rintro ⟨back, id, front, node, order, found, titled, none⟩
        refine ⟨front.reverse, id, back.reverse, by simp [order],
          title?_eq_some_iff.mpr ⟨node, found, titled⟩, fun other member => ?_⟩
        exact title?_eq_none_iff.mpr (none other (List.mem_reverse.mp member))
      · rintro ⟨inFront, id, behind, reversed, gives, none⟩
        obtain ⟨node, found, titled⟩ := title?_eq_some_iff.mp gives
        refine ⟨behind.reverse, id, inFront.reverse, node, ?_, found, titled,
          fun other member => ?_⟩
        · rw [← List.reverse_inj, reversed]
          simp
        · exact title?_eq_none_iff.mp (none other (List.mem_reverse.mp member))

theorem frontTitle_congr {before after : Tree} (order : after.order = before.order)
    (titles : ∀ id, after.title? id = before.title? id) :
    after.frontTitle = before.frontTitle := by
  show after.order.reverse.findSome? after.title? = before.order.reverse.findSome? before.title?
  rw [order, funext titles]

/-- A new window at the back that gives no title makes no difference. -/
theorem frontTitle_listTopLevel (untitled : tree.title? id = none) :
    (tree.listTopLevel id).frontTitle = tree.frontTitle := by
  unfold listTopLevel Stacking.added frontTitle
  split
  · rfl
  · have here : (tree.node? id).bind Node.activityTitle = none := untitled
    show (id :: tree.order).reverse.findSome?
      (fun id => (tree.node? id).bind Node.activityTitle) = _
    rw [List.reverse_cons, List.findSome?_append, List.findSome?_singleton, here, Option.or_none]

/-! ## Titles by records -/

theorem title?_eq_record? (tree : Tree) (id : WindowId) :
    tree.title? id = (tree.record? id).bind Node.activityTitle := by
  unfold title? record?
  cases tree.node? id <;> rfl

theorem title?_congr {before after : Tree} (same : after.record? id = before.record? id) :
    after.title? id = before.title? id := by
  rw [title?_eq_record?, title?_eq_record?, same]

/-- An edit of one record that keeps its title. -/
theorem title?_of_edit {before after : Tree} {edit : Node → Node}
    (records : ∀ id, after.record? id =
      if id = target then (before.record? id).map edit else before.record? id)
    (keeps : ∀ record, before.record? target = some record →
      (edit record).activityTitle = record.activityTitle) (id : WindowId) :
    after.title? id = before.title? id := by
  rw [title?_eq_record?, title?_eq_record?, records]
  split
  · next isTarget =>
      subst isTarget
      cases found : before.record? id with
      | none => rfl
      | some record => exact keeps record found
  · rfl

/-! ## Commands that set no title -/

section Mute

open Scene

variable {commands : List Command}

@[simp] theorem titlesOf_attachCommands (tree : Tree) (id : WindowId) :
    titlesOf (tree.attachCommands id) = [] := by
  unfold attachCommands
  repeat' split
  all_goals rfl

@[simp] theorem titlesOf_detachCommands (tree : Tree) (id : WindowId) :
    titlesOf (tree.detachCommands id) = [] := by
  unfold detachCommands
  split <;> rfl

@[simp] theorem titlesOf_reattachCommands (tree : Tree) (id : WindowId) :
    titlesOf (tree.reattachCommands id) = [] := by
  unfold reattachCommands titlesOf
  rw [List.filterMap_flatMap, List.flatMap_eq_nil_iff]
  exact fun child _ => titlesOf_attachCommands tree child

@[simp] theorem titlesOf_acceleratedCommands (tree : Tree) (id : WindowId) :
    titlesOf (tree.acceleratedCommands id) = [] := by
  unfold acceleratedCommands
  split <;> rfl

@[simp] theorem titlesOf_rebuiltCommands (tree : Tree) (id : WindowId) :
    titlesOf (tree.rebuiltCommands id) = [] := by
  unfold rebuiltCommands
  rw [titlesOf_append, titlesOf_append, titlesOf_acceleratedCommands, titlesOf_reattachCommands]
  rfl

@[simp] theorem titlesOf_focusCommands (id : WindowId) (before after : Bool) :
    titlesOf (focusCommands id before after) = [] := by
  unfold focusCommands
  split <;> rfl

@[simp] theorem titlesOf_childViewCommands (tree : Tree) (parent id : WindowId)
    (before after reorders : Bool) :
    titlesOf (tree.childViewCommands parent id before after reorders) = [] := by
  unfold childViewCommands alignChildrenCommands
  repeat' split
  · exact titlesOf_attachCommands tree id
  · exact titlesOf_detachCommands tree id
  all_goals rfl

theorem titlesOf_topLevelViews (computed : topLevelViews node = .ok commands) :
    titlesOf commands = [] := by
  obtain ⟨whole, client, -, -, rfl⟩ := topLevelViews_eq_ok computed
  rfl

theorem titlesOf_childViews (computed : tree.childViews node = .ok commands) :
    titlesOf commands = [] := by
  unfold childViews at computed
  obtain ⟨area, -, rest⟩ := bind_eq_ok.mp computed
  obtain ⟨client, -, rest⟩ := bind_eq_ok.mp rest
  split at rest
  · cases rest
    rfl
  · obtain ⟨whole, -, rest⟩ := bind_eq_ok.mp rest
    cases rest
    rw [titlesOf_append]
    split
    · exact titlesOf_attachCommands tree node.id
    · rfl

theorem titlesOf_viewsOfAll {windows : List WindowId}
    (computed : tree.viewsOfAll windows = .ok commands) : titlesOf commands = [] := by
  induction windows generalizing commands with
  | nil =>
      cases computed
      rfl
  | cons window rest inductionHypothesis =>
      obtain ⟨here, later, ownViews, laterViews, rfl⟩ := viewsOfAll_cons.mp computed
      have own : titlesOf here = [] := by
        unfold viewsOf at ownViews
        split at ownViews
        · exact titlesOf_childViews ownViews
        · cases ownViews
          rfl
      rw [titlesOf_append, own, inductionHypothesis laterViews, List.append_nil]

theorem titlesOf_ensureViews (computed : tree.ensureViews hasViews id = .ok commands) :
    titlesOf commands = [] :=
  titlesOf_viewsOfAll computed

theorem titlesOf_announceCommands (tree : Tree) :
    titlesOf tree.announceCommands =
      if tree.frontTitle = tree.announced then [] else [tree.frontTitle] := by
  unfold announceCommands
  split <;> rfl

end Mute

/-! ## Changes -/

/-- A change that keeps the front title and says nothing about it. -/
structure KeepsTitle (tree : Tree) (change : Change) : Prop where
  mute : Scene.titlesOf change.commands = []
  announced : change.tree.announced = tree.announced
  front : change.tree.frontTitle = tree.frontTitle

/-- A change that tells the host the front title once if it became another one, and else never. -/
structure TellsTitle (tree : Tree) (change : Change) : Prop where
  announced : change.tree.announced = change.tree.frontTitle
  titles : Scene.titlesOf change.commands =
    if change.tree.frontTitle = tree.frontTitle then [] else [change.tree.frontTitle]

theorem KeepsTitle.tells (keeps : KeepsTitle tree change)
    (upToDate : tree.announced = tree.frontTitle) : TellsTitle tree change where
  announced := by rw [keeps.announced, keeps.front, upToDate]
  titles := by rw [keeps.mute, if_pos keeps.front]

/-- Whatever a mute change does to the windows, the announcement at its end is right. -/
theorem tellsTitle_announcing (upToDate : tree.announced = tree.frontTitle)
    (mute : Scene.titlesOf change.commands = [])
    (announced : change.tree.announced = tree.announced) : TellsTitle tree change.announcing where
  announced := rfl
  titles := by
    show Scene.titlesOf (change.commands ++ change.tree.announceCommands) = _
    rw [Scene.titlesOf_append, mute, titlesOf_announceCommands, announced, upToDate]
    rfl

/-- Changes that keep the front title before another change. -/
theorem KeepsTitle.followedBy {next : Tree → Change} (keeps : KeepsTitle tree change)
    (tells : TellsTitle change.tree (next change.tree)) :
    TellsTitle tree (change.followedBy next) where
  announced := tells.announced
  titles := by
    show Scene.titlesOf (change.commands ++ (next change.tree).commands) = _
    rw [Scene.titlesOf_append, keeps.mute, tells.titles, keeps.front]
    rfl

theorem KeepsTitle.trans {next : Tree → Change} (keeps : KeepsTitle tree change)
    (also : KeepsTitle change.tree (next change.tree)) :
    KeepsTitle tree (change.followedBy next) where
  mute := by
    show Scene.titlesOf (change.commands ++ (next change.tree).commands) = _
    rw [Scene.titlesOf_append, keeps.mute, also.mute]
    rfl
  announced := also.announced.trans keeps.announced
  front := also.front.trans keeps.front

/-! ## Windows that come and go -/

/-- A change that leaves every record alone, as far as it gives a title, and the order as well. -/
theorem keepsTitle_of_titles (mute : Scene.titlesOf change.commands = [])
    (announced : change.tree.announced = tree.announced)
    (order : change.tree.order = tree.order)
    (titles : ∀ id, change.tree.title? id = tree.title? id) : KeepsTitle tree change :=
  ⟨mute, announced, frontTitle_congr order titles⟩

theorem keepsTitle_accelerate (tree : Tree) (id : WindowId) :
    KeepsTitle tree (tree.accelerate id) :=
  keepsTitle_of_titles rfl rfl rfl fun other => title?_congr (record?_accelerate tree id other)

/-- A record that comes new gives no title. -/
theorem title?_of_new {before after : Tree} (isNew : before.node? id = none)
    (untitled : node.title = none)
    (records : ∀ other, after.record? other =
      if other = id then some node else before.record? other) (other : WindowId) :
    after.title? other = before.title? other := by
  rw [title?_eq_record?, title?_eq_record?, records]
  split
  · next isId =>
      rw [isId, record?_eq_none_iff.mpr isNew]
      exact Node.activityTitle_of_untitled untitled
  · rfl

theorem keepsTitle_createDesktop (created : tree.createDesktop id = .ok change) :
    KeepsTitle tree change := by
  have records := record?_createDesktop created
  obtain ⟨-, dead, rfl⟩ := createDesktop_eq_ok created
  exact keepsTitle_of_titles rfl rfl rfl
    (title?_of_new (node?_eq_none_of_not_isLive dead) rfl records)

theorem keepsTitle_createTopLevel (dead : ¬ tree.isLive id = true) {scale : Binary32}
    {process : UInt32} (created : tree.createTopLevel id scale process = .ok change) :
    KeepsTitle tree change := by
  obtain ⟨commands, views, rfl⟩ := createTopLevel_eq_ok created
  let added := tree.addNode (newNode id (.topLevel false) scale process none)
  have titles : ∀ other, added.title? other = tree.title? other :=
    title?_of_new (node?_eq_none_of_not_isLive dead) rfl fun other => record?_addNode tree other _
  refine ⟨titlesOf_topLevelViews views, rfl, ?_⟩
  have untitled : added.title? id = none := by
    rw [titles, title?, node?_eq_none_of_not_isLive dead]
    rfl
  exact (frontTitle_listTopLevel untitled).trans (frontTitle_congr rfl titles)

theorem keepsTitle_createChild (dead : ¬ tree.isLive id = true) {parent : Option WindowId}
    {scale : Binary32} {process : UInt32}
    (created : tree.createChild hasViews id parent scale process = .ok change) :
    KeepsTitle tree change := by
  obtain ⟨-, commands, views, rfl⟩ := createChild_eq_ok created
  have linked : (tree.awaiting parent id).announced = tree.announced ∧
      (tree.awaiting parent id).order = tree.order := by
    cases parent <;> exact ⟨rfl, rfl⟩
  have records : ∀ other, ((tree.awaiting parent id).addNode
      (newNode id .child scale process parent)).record? other =
        if other = id then some (newNode id .child scale process parent).record
        else tree.record? other := fun other => by
    rw [record?_addNode, record?_awaiting]
  exact keepsTitle_of_titles (titlesOf_ensureViews views) linked.1 linked.2
    (title?_of_new (node?_eq_none_of_not_isLive dead) rfl records)

theorem keepsTitle_create {parent : WindowId} {scale : Binary32} {accelerated : Bool}
    {process : UInt32}
    (created : tree.create hasViews id parent scale accelerated process = .ok change) :
    KeepsTitle tree change := by
  rcases create_eq_ok created with ⟨-, -, rfl⟩ | ⟨dead, first, rfl, making⟩
  · exact keepsTitle_accelerate tree id
  · have added : KeepsTitle tree first := by
      rcases making with topLevel | ⟨target, -, child⟩
      · exact keepsTitle_createTopLevel dead topLevel
      · exact keepsTitle_createChild dead child
    split
    · exact added.trans (keepsTitle_accelerate first.tree id)
    · exact added

theorem KeepsTitle.refl (tree : Tree) : KeepsTitle tree { tree } :=
  ⟨rfl, rfl, rfl⟩

/-- The removal of a window that is no top-level window keeps the front title. -/
theorem keepsTitle_destroyOne
    (notTopLevel : ∀ node, tree.node? id = some node → node.isTopLevel = false) :
    KeepsTitle tree (tree.destroyOne id) := by
  cases found : tree.node? id with
  | none =>
      rw [destroyOne_of_dead (by simp [isLive_eq, found])]
      exact .refl tree
  | some node =>
      have titles : ∀ other, (tree.destroyOne id).tree.title? other = tree.title? other := by
        intro other
        rw [title?_eq_record?, record?_destroyOne]
        split
        · next isId =>
            rw [isId, title?, found]
            exact (Node.activityTitle_of_not_isTopLevel (notTopLevel node found)).symm
        · exact (title?_eq_record? tree other).symm
      cases kindIs : node.kind with
      | topLevel flag =>
          have isTopLevel := notTopLevel node found
          simp [Node.isTopLevel, kindIs] at isTopLevel
      | desktop =>
          unfold destroyOne at titles ⊢
          simp only [found, kindIs] at titles ⊢
          exact keepsTitle_of_titles rfl rfl rfl titles
      | child =>
          unfold destroyOne at titles ⊢
          simp only [found, kindIs] at titles ⊢
          refine keepsTitle_of_titles ?_ ?_ ?_ titles
          · rw [Scene.titlesOf_append, titlesOf_detachCommands]
            rfl
          · cases node.parent <;> rfl
          · cases node.parent <;> rfl

/-- The removal of any window tells the front title. -/
theorem tellsTitle_destroyOne (upToDate : tree.announced = tree.frontTitle) (id : WindowId) :
    TellsTitle tree (tree.destroyOne id) := by
  by_cases isTopLevel : ∃ node flag, tree.node? id = some node ∧ node.kind = .topLevel flag
  · obtain ⟨node, flag, found, kindIs⟩ := isTopLevel
    unfold destroyOne
    simp only [found, kindIs]
    exact tellsTitle_announcing upToDate rfl rfl
  · refine (keepsTitle_destroyOne fun node found => ?_).tells upToDate
    unfold Node.isTopLevel
    split
    · next flag kindIs => exact absurd ⟨node, flag, found, kindIs⟩ isTopLevel
    · rfl

/-- Windows that are no top-level windows go without a word. -/
theorem keepsTitle_destroyAll (windows : List WindowId) {change : Change}
    (keeps : KeepsTitle tree change)
    (notTopLevel : ∀ window ∈ windows, ∀ record, change.tree.record? window = some record →
      record.isTopLevel = false) :
    KeepsTitle tree
      (windows.foldl (fun change window => change.followedBy (·.destroyOne window)) change) := by
  induction windows generalizing change with
  | nil => exact keeps
  | cons window rest inductionHypothesis =>
      have first : KeepsTitle change.tree (change.tree.destroyOne window) :=
        keepsTitle_destroyOne fun node found =>
          notTopLevel window List.mem_cons_self node.record (record?_of_node? found)
      refine inductionHypothesis (keeps.trans first) fun other member record found => ?_
      have there := (record?_destroyOne change.tree window other).symm.trans found
      split at there
      · cases there
      · exact notTopLevel other (List.mem_cons_of_mem window member) record there

/-- Only the root of a subtree may be a top-level window, and it goes last. -/
theorem tellsTitle_destroy (forest : tree.Forest) (upToDate : tree.announced = tree.frontTitle)
    (root : WindowId) : TellsTitle tree (tree.destroy root) := by
  by_cases live : tree.isLive root = true
  · obtain ⟨below, subtreeIs, hasParent⟩ := subtree_eq_append forest live
    have notTopLevel : ∀ window ∈ below, ∀ record, tree.record? window = some record →
        record.isTopLevel = false := by
      intro window member record found
      obtain ⟨node, nodeFound, rfl⟩ := Option.map_eq_some_iff.mp found
      have isChild : node.kind = .child :=
        isChild_of_parent forest nodeFound (parent?_of_node? nodeFound ▸ hasParent window member)
      simp [Node.isTopLevel, Node.record, isChild]
    have keeps := keepsTitle_destroyAll below (KeepsTitle.refl tree) notTopLevel
    unfold destroy
    rw [subtreeIs, List.foldl_append, List.foldl_cons, List.foldl_nil]
    refine keeps.followedBy (tellsTitle_destroyOne ?_ root)
    rw [keeps.announced, keeps.front, upToDate]
  · have nothing : tree.destroy root = { tree } := by
      unfold destroy subtree
      cases tree.size <;> simp [subtreeWithin, live]
    rw [nothing]
    exact (KeepsTitle.refl tree).tells upToDate

/-! ## Moves and placements -/

/-- The scale of a subtree is no part of a title. -/
theorem TellsTitle.rescale (tells : TellsTitle tree change) (id : WindowId) (scale : Binary32) :
    TellsTitle tree { change with tree := change.tree.rescale id scale } := by
  have front : (change.tree.rescale id scale).frontTitle = change.tree.frontTitle :=
    frontTitle_congr rfl fun other => title?_congr (record?_rescale change.tree id other scale)
  exact
    { announced := tells.announced.trans front.symm
      titles := by
        rw [front]
        exact tells.titles }

theorem announced_unlink (tree : Tree) (parent : Option WindowId) (id : WindowId) :
    (tree.unlink parent id).announced = tree.announced := by
  cases parent <;> rfl

theorem order_moved (tree : Tree) (id parent : WindowId) :
    (tree.moved id parent).order = tree.order := by
  unfold moved
  cases tree.parent? id <;> rfl

/-- Between two parents a window gives no title, before and after. -/
theorem keepsTitle_move {parent : WindowId} (moved : tree.move hasViews node parent = .ok change) :
    KeepsTitle tree change := by
  have titles : ∀ other, (tree.moved node.id parent).title? other = tree.title? other :=
    fun other => title?_congr (record?_moved tree node.id parent other)
  have announced : (tree.moved node.id parent).announced = tree.announced :=
    announced_unlink tree (tree.parent? node.id) node.id
  have detaching : Scene.titlesOf (if node.visible then tree.detachCommands node.id else []) =
      [] := by
    split <;> simp
  unfold move at moved
  obtain ⟨above, computed, rest⟩ := bind_eq_ok.mp moved
  have mounting := titlesOf_ensureViews (liftOverflow_eq_ok.mp computed)
  dsimp only at rest
  split at rest
  · obtain ⟨whole, -, rest⟩ := bind_eq_ok.mp rest
    cases rest
    refine keepsTitle_of_titles ?_ announced (order_moved tree node.id parent) titles
    simp only [Scene.titlesOf_append, detaching, mounting]
    split
    · exact titlesOf_attachCommands (tree.moved node.id parent) node.id
    · rfl
  · obtain ⟨here, views, rest⟩ := bind_eq_ok.mp rest
    cases rest
    refine keepsTitle_of_titles ?_ announced (order_moved tree node.id parent) titles
    simp only [Scene.titlesOf_append, detaching, mounting,
      titlesOf_ensureViews (liftOverflow_eq_ok.mp views), List.append_nil]

theorem tellsTitle_reparent (upToDate : tree.announced = tree.frontTitle)
    {parent : WindowId} {scale : Binary32}
    (reparented : tree.reparent hasViews id parent scale = .ok change) :
    TellsTitle tree change := by
  obtain ⟨node, first, -, -, rfl, moves⟩ := reparent_eq_ok reparented
  refine TellsTitle.rescale ?_ id scale
  rcases moves with rfl | ⟨-, promoted⟩ | ⟨-, -, demoted⟩ | ⟨-, -, -, moved⟩
  · exact (KeepsTitle.refl tree).tells upToDate
  · obtain ⟨views, computed, rfl⟩ := promote_eq_ok promoted
    refine tellsTitle_announcing upToDate ?_ (announced_unlink tree (tree.parent? node.id) node.id)
    simp only [Scene.titlesOf_append, titlesOf_detachCommands, titlesOf_topLevelViews computed,
      titlesOf_rebuiltCommands]
    rfl
  · obtain ⟨views, computed, rfl⟩ := demote_eq_ok demoted
    refine tellsTitle_announcing upToDate ?_ rfl
    simp only [Scene.titlesOf_append, titlesOf_ensureViews computed, titlesOf_rebuiltCommands]
    rfl
  · exact (keepsTitle_move moved).tells upToDate

/-- A placement of a window that is no top-level window gives no title, before and after. -/
theorem title?_store_of_hidden {placement : Placement} (found : tree.node? id = some node)
    (notTopLevel : node.isTopLevel = false) (other : WindowId) :
    (tree.store id placement).title? other = tree.title? other := by
  refine title?_of_edit (record?_store tree id · placement) (fun record isRecord => ?_) other
  have same : record = node.record := Option.some.inj (isRecord.symm.trans (record?_of_node? found))
  subst same
  have hidden : node.record.isTopLevel = false := notTopLevel
  rw [Node.activityTitle_of_not_isTopLevel hidden]
  exact Node.activityTitle_of_not_isTopLevel hidden

theorem tellsTitle_position (forest : tree.Forest) (upToDate : tree.announced = tree.frontTitle)
    {placement : Placement} (positioned : tree.position hasViews id placement = .ok change) :
    TellsTitle tree change := by
  obtain ⟨node, found, ⟨kindIs, rfl⟩ | ⟨-, topLevel⟩ | ⟨kindIs, child⟩⟩ :=
    position_eq_ok positioned
  · refine KeepsTitle.tells (keepsTitle_of_titles rfl rfl rfl ?_) upToDate
    exact title?_store_of_hidden found (by simp [Node.isTopLevel, kindIs])
  · obtain ⟨stacked, whole, footprint, notices, stacking, -, -, rfl⟩ :=
      positionTopLevel_eq_ok topLevel
    refine tellsTitle_announcing upToDate ?_ ?_
    · simp only [Scene.titlesOf_append, titlesOf_focusCommands]
      split <;> rfl
    · rcases stacking with ⟨-, directive, rfl⟩ | ⟨-, rfl⟩ <;> rfl
  · have own : node.id = id := forest.stored id node found
    have stored : ∀ other, (tree.store id placement).title? other = tree.title? other :=
      title?_store_of_hidden found (by simp [Node.isTopLevel, kindIs])
    obtain ⟨stacked, commands, notices, stacking, unhosted, hosted, rfl⟩ :=
      positionChild_eq_ok child
    rw [own] at stacking
    have mute : Scene.titlesOf commands = [] := by
      cases views : hasViews node.id with
      | false => rw [unhosted views]; rfl
      | true =>
          obtain ⟨whole, footprint, -, -, rfl⟩ := hosted views
          rw [Scene.titlesOf_append]
          split
          · rfl
          · next parent _ =>
              have here := titlesOf_childViewCommands stacked parent node.id node.visible
                (node.placed placement).visible placement.reorders
              show Scene.titlesOf (Tree.childViewCommands ..) ++ [] = []
              rw [here]
              rfl
    rcases stacking with ⟨rfl, -⟩ | ⟨-, parent, -, rfl⟩
    · exact KeepsTitle.tells (keepsTitle_of_titles mute rfl rfl stored) upToDate
    · refine KeepsTitle.tells (keepsTitle_of_titles mute rfl rfl fun other => ?_) upToDate
      rw [← stored other]
      exact title?_congr (record?_restackedUnder _ id other parent _)

/-! ## Every event -/

theorem tellsTitle_announcingIf (upToDate : tree.announced = tree.frontTitle)
    (found : tree.node? id = some node) {edit : Node → Node}
    (edits : ∀ node, (edit node).record = edit node.record)
    (keepsKind : ∀ node, (edit node).isTopLevel = node.isTopLevel) :
    TellsTitle tree (announcingIf node.isTopLevel { tree := tree.updateNode id edit }) := by
  cases isTopLevel : node.isTopLevel with
  | true => exact tellsTitle_announcing upToDate rfl rfl
  | false =>
      refine KeepsTitle.tells (keepsTitle_of_titles rfl rfl rfl ?_) upToDate
      refine title?_of_edit (record?_updateNode tree id · edit edits) fun record isRecord => ?_
      have same : record = node.record :=
        Option.some.inj (isRecord.symm.trans (record?_of_node? found))
      subst same
      have hidden : node.record.isTopLevel = false := isTopLevel
      rw [Node.activityTitle_of_not_isTopLevel hidden,
        Node.activityTitle_of_not_isTopLevel ((keepsKind node.record).trans hidden)]

/-- Surfaces are no part of a title. -/
theorem keepsTitle_setSurfaces (mute : Scene.titlesOf change.commands = [])
    {surfaces : Surface.Slots}
    (treeIs : change.tree = tree.updateNode id fun node => { node with surfaces }) :
    KeepsTitle tree change := by
  refine keepsTitle_of_titles mute (by rw [treeIs]; rfl) (by rw [treeIs]; rfl) ?_
  rw [treeIs]
  exact title?_of_edit (record?_setSurfaces tree id · surfaces) fun _ _ => rfl

/-- An accepted event tells the host the front title once if it became another one, and else
never. -/
theorem tellsTitle_of_change (forest : tree.Forest) (upToDate : tree.announced = tree.frontTitle)
    (accepted : tree.change hasViews event = .ok change) : TellsTitle tree change := by
  cases event with
  | createDesktop id => exact (keepsTitle_createDesktop accepted).tells upToDate
  | create id parent scale accelerated process =>
      exact (keepsTitle_create accepted).tells upToDate
  | startAccelerated id =>
      rw [startAccelerated_eq_ok accepted]
      exact (keepsTitle_accelerate tree id).tells upToDate
  | destroy id =>
      cases accepted
      exact tellsTitle_destroy forest upToDate id
  | reparent id parent scale => exact tellsTitle_reparent upToDate accepted
  | position id placement => exact tellsTitle_position forest upToDate accepted
  | focus id =>
      obtain ⟨node, -, focused⟩ := onLive_eq_ok accepted
      split at focused
      · cases focused
        exact tellsTitle_announcing upToDate rfl rfl
      · cases focused
        exact (KeepsTitle.refl tree).tells upToDate
  | setText id text =>
      obtain ⟨node, found, changed⟩ := onLive_eq_ok accepted
      cases changed
      exact tellsTitle_announcingIf upToDate found (fun _ => rfl) fun _ => rfl
  | setIcon id icon =>
      obtain ⟨node, found, changed⟩ := onLive_eq_ok accepted
      cases changed
      exact tellsTitle_announcingIf upToDate found (fun _ => rfl) fun _ => rfl
  | surfaceAvailable id kind handle =>
      obtain ⟨node, parking, restoring, -, parked, restored, rfl⟩ := surfaceAvailable_eq_ok accepted
      refine (keepsTitle_setSurfaces (Scene.titlesOf_eq_nil fun command member => ?_) rfl).tells
        upToDate
      obtain ⟨which, rect, rfl⟩ := layouts_of_arrival parked restored command member
      rfl
  | surfaceDestroyed id kind =>
      obtain ⟨node, -, rfl⟩ := surfaceDestroyed_eq_ok accepted
      exact (keepsTitle_setSurfaces rfl rfl).tells upToDate
  | viewVisibility id kind visible =>
      obtain ⟨node, -, reported⟩ := onLive_eq_ok accepted
      cases reported
      exact KeepsTitle.tells ⟨rfl, rfl, rfl⟩ upToDate
  | activityStarted =>
      cases accepted
      have mute : Scene.titlesOf tree.activityStarted.commands = [] :=
        Scene.titlesOf_eq_nil fun command member => by
          obtain ⟨window, -, rfl⟩ := List.mem_map.mp member
          rfl
      exact KeepsTitle.tells ⟨mute, rfl, rfl⟩ upToDate
  | activityStopped =>
      cases accepted
      have mute : Scene.titlesOf tree.activityStopped.commands = [] :=
        Scene.titlesOf_eq_nil fun command member => by
          obtain ⟨window, -, rfl⟩ := List.mem_map.mp member
          rfl
      exact KeepsTitle.tells ⟨mute, rfl, rfl⟩ upToDate

end Tree

end WindowRelay
