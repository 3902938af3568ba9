import WindowRelay.Proofs.Desk.Runs
import WindowRelay.Proofs.Stacking.Bands
import WindowRelay.Proofs.Tree.Evolution

/-!
Contract: the structure of the tree after every run.

Owns:
- elementary steps keep the top-level order split into a normal and a topmost band;
- after every run the windows form a forest, order and desktop window agree with it, and the order
  is split.
-/

namespace WindowRelay

theorem Tree.Evolves.banded {before after : Tree} (evolves : Tree.Evolves before after)
    (forest : before.Forest)
    (banded : Stacking.Banded before.isTopmost before.order) :
    Stacking.Banded after.isTopmost after.order := by
  induction evolves with
  | attributes same =>
      rw [same.order]
      exact banded.congr fun other _ => same.isTopmost other
  | @rehome before after id kind style target rehomed =>
      have flags : ∀ other, after.isTopmost other =
          if other = id then false else before.isTopmost other := by
        intro other
        rw [Tree.isTopmost_eq, Tree.isTopmost_eq, rehomed.kinds]
        split
        · simpa using rehomed.normal
        · rfl
      have rest : Stacking.Banded after.isTopmost (Stacking.without before.order id) := by
        apply (banded.without id).congr
        intro other member
        rw [flags, if_neg (Stacking.mem_without.mp member).2]
      rw [rehomed.order]
      split
      · exact rest.cons (by rw [flags, if_pos rfl])
      · exact rest
  | @place before id flag isTopLevel directive =>
      have kinds := fun other => Tree.kind?_place directive other isTopLevel
      have formerFlag : before.isTopmost id = flag := by
        rw [Tree.isTopmost_eq, isTopLevel]
        cases flag <;> rfl
      refine banded.restacked ?_ fun other different => ?_
      · rw [Tree.isTopmost_eq, kinds, if_pos rfl, formerFlag]
        cases directive.flagAfter flag <;> rfl
      · rw [Tree.isTopmost_eq, Tree.isTopmost_eq, kinds, if_neg different]
  | restackUnder link directive =>
      apply banded.congr
      intro other _
      rw [Tree.isTopmost_eq, Tree.isTopmost_eq, Tree.kind?_restackedUnder]
  | trans first _ firstKeeps secondKeeps =>
      exact secondKeeps (forest.ofEvolves first) (firstKeeps forest banded)

namespace Desk

variable {reserveFront : Bool} {events : List TreeEvent} {desk : Desk} {output : Output}

/-! ## The forest -/

theorem forest_of_run (ran : (fresh reserveFront).run events = .ok (desk, output)) :
    desk.tree.Forest := by
  refine run_preserves (motive := fun desk => desk.tree.Forest) ?_ Tree.forest_empty ran
  intro desk event change forest accepted
  exact forest.ofChange accepted

/-- Parent links and child lists agree, and each child is listed once; every chain of parents ends;
the order lists the top-level windows once each; only children have a parent, and only the
message-only window is a child without one; the desktop window is the only one of its kind; every
window is stored under its own id. -/
theorem windows_form_forest (ran : (fresh reserveFront).run events = .ok (desk, output)) :
    (∀ id parent, (∃ node, desk.tree.node? id = some node ∧ node.parent = some parent) ↔
      ∃ above, desk.tree.node? parent = some above ∧ id ∈ above.children) ∧
    (∀ parent above, desk.tree.node? parent = some above →
      ∀ id ∈ above.children, above.children.count id = 1) ∧
    (∀ id, desk.tree.isLive id = true → ∃ chain, Ascent desk.tree.parent? id chain ∧
      ∀ member ∈ chain, desk.tree.isLive member = true) ∧
    desk.tree.order.Nodup ∧
    (∀ id, id ∈ desk.tree.order ↔
      ∃ node flag, desk.tree.node? id = some node ∧ node.kind = .topLevel flag) ∧
    (∀ id node, desk.tree.node? id = some node →
      (node.kind ≠ .child → node.parent = none) ∧
      (node.kind = .child → node.parent = none → id = WindowId.messageOnly)) ∧
    (∀ id, desk.tree.desktop = some id ↔
      ∃ node, desk.tree.node? id = some node ∧ node.kind = .desktop) ∧
    (∀ id node other otherNode, desk.tree.node? id = some node → node.kind = .desktop →
      desk.tree.node? other = some otherNode → otherNode.kind = .desktop → id = other) ∧
    (∀ id node, desk.tree.node? id = some node → node.id = id) := by
  have forest := forest_of_run ran
  have desktop : ∀ id, desk.tree.desktop = some id ↔
      ∃ node, desk.tree.node? id = some node ∧ node.kind = .desktop := by
    intro id
    rw [forest.desktop id]
    exact Option.map_eq_some_iff
  refine ⟨fun id parent => ?_, fun parent above found id member => ?_, fun id _ => ?_,
    forest.listedOnce, fun id => ?_, fun id node found => ⟨fun notChild => ?_, fun isChild => ?_⟩,
    desktop, fun id node other otherNode found isDesktop otherFound otherIsDesktop => ?_,
    forest.stored⟩
  · have linked := forest.links.linked id parent
    rw [Tree.parent?_eq_some_iff, Tree.mem_children_iff] at linked
    exact linked
  · have distinct := forest.links.distinct parent
    rw [Tree.children_of_node? found] at distinct
    exact List.count_eq_one_of_mem distinct member
  · have ascent := forest.ascent_ancestors id
    exact ⟨_, ascent, fun member isMember => forest.isLive_of_mem_ascent ascent isMember⟩
  · rw [forest.listed id]
    constructor
    · rintro ⟨flag, isTopLevel⟩
      obtain ⟨node, found, kindIs⟩ := Option.map_eq_some_iff.mp isTopLevel
      exact ⟨node, flag, found, kindIs⟩
    · rintro ⟨node, flag, found, kindIs⟩
      exact ⟨flag, kindIs ▸ Tree.kind?_of_node? found⟩
  · rw [← Tree.parent?_of_node? found]
    exact forest.anchored id node.kind (Tree.kind?_of_node? found) notChild
  · rw [← Tree.parent?_of_node? found]
    exact forest.detached id (isChild ▸ Tree.kind?_of_node? found)
  · have first := (desktop id).mpr ⟨node, found, isDesktop⟩
    have second := (desktop other).mpr ⟨otherNode, otherFound, otherIsDesktop⟩
    exact Option.some.inj (first.symm.trans second)

theorem windows_form_forest_after_shortRun :
    ∃ desk output, (fresh true).run shortRun = .ok (desk, output) ∧
      (∃ above, desk.tree.node? 17 = some above ∧ above.children.count 33 = 1) ∧
      (∃ chain, Ascent desk.tree.parent? 18 chain) ∧ desk.tree.order.Nodup := by
  have passes : (fresh true).finishes shortRun
      (fun desk => desk.tree.parent? 33 = some 17 ∧ desk.tree.isLive 18 = true) = true := by
    decide +kernel
  obtain ⟨desk, output, ran, passed⟩ := exists_of_finishes passes
  obtain ⟨link, live⟩ := of_decide_eq_true passed
  obtain ⟨linked, once, rooted, listedOnce, -⟩ := windows_form_forest ran
  obtain ⟨above, found, member⟩ := (linked 33 17).mp (Tree.parent?_eq_some_iff.mp link)
  obtain ⟨chain, ascent, -⟩ := rooted 18 live
  exact ⟨desk, output, ran, ⟨above, found, once 17 above found 33 member⟩, ⟨chain, ascent⟩,
    listedOnce⟩

/-! ## The bands -/

theorem banded_of_run (ran : (fresh reserveFront).run events = .ok (desk, output)) :
    Stacking.Banded desk.tree.isTopmost desk.tree.order := by
  have both : desk.tree.Forest ∧ Stacking.Banded desk.tree.isTopmost desk.tree.order := by
    refine run_preserves
      (motive := fun desk => desk.tree.Forest ∧ Stacking.Banded desk.tree.isTopmost desk.tree.order)
      ?_ ⟨Tree.forest_empty, Stacking.banded_nil _⟩ ran
    intro desk event change good accepted
    have evolves := Tree.change_evolves good.1 accepted
    exact ⟨good.1.ofEvolves evolves, evolves.banded good.1 good.2⟩
  exact both.2

/-- The order is a run of normal windows with a run of topmost windows in front of them, and no
window outside the order is topmost. -/
theorem order_split_by_topmost (ran : (fresh reserveFront).run events = .ok (desk, output)) :
    (∃ normal front, desk.tree.order = normal ++ front ∧
      (∀ id ∈ normal, desk.tree.isTopmost id = false) ∧
      ∀ id ∈ front, desk.tree.isTopmost id = true) ∧
    ∀ id, id ∉ desk.tree.order → desk.tree.isTopmost id = false := by
  obtain ⟨normal, front, split, bands⟩ := banded_of_run ran
  refine ⟨⟨normal, front, split, bands.normal, bands.front⟩, fun id notListed => ?_⟩
  by_contra isTopmost
  rw [Bool.not_eq_false, Tree.isTopmost_eq, beq_iff_eq] at isTopmost
  exact notListed (((forest_of_run ran).listed id).mpr ⟨true, isTopmost⟩)

theorem order_split_by_topmost_after_shortRun :
    ∃ desk output, (fresh true).run shortRun = .ok (desk, output) ∧
      desk.tree.order = [34, 16, 17] ∧ desk.tree.isTopmost 33 = false ∧
      ∃ normal front, [34, 16, 17] = normal ++ front ∧
        ∀ id ∈ front, desk.tree.isTopmost id = true := by
  have passes : (fresh true).finishes shortRun
      (fun desk => desk.tree.order = [34, 16, 17]) = true := by
    decide +kernel
  obtain ⟨desk, output, ran, passed⟩ := exists_of_finishes passes
  have order := of_decide_eq_true passed
  obtain ⟨⟨normal, front, split, -, isTopmost⟩, notListed⟩ := order_split_by_topmost ran
  rw [order] at split notListed
  exact ⟨desk, output, ran, order, notListed 33 (by decide), normal, front, split, isTopmost⟩

end Desk

end WindowRelay
