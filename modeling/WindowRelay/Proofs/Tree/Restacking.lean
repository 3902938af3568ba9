import WindowRelay.Proofs.Stacking.Directives
import WindowRelay.Proofs.Tree.Position

/-!
Contract: stacking directives for top-level windows.

Owns:
- the topmost flags after a directive;
- where a directive puts a window, and that it leaves everything else alone;
- the same directive once more changes nothing.

Nothing is asked of the tree but an order without repetitions whose topmost windows are in front.
-/

namespace WindowRelay

namespace Tree

open Stacking (Banded BetweenBands without)

variable {tree : Tree} {window other : WindowId} {directive : Directive} {flag : Bool}

/-- Where a directive puts a window, and the flag it leaves it with. -/
def Lands (tree : Tree) (window : WindowId) (after : Tree) : Directive → Prop
  | .bottom =>
    after.isTopmost window = false ∧ after.order = window :: without tree.order window
  | .topmost =>
    after.isTopmost window = true ∧ after.order = without tree.order window ++ [window]
  | .top =>
    (tree.isTopmost window = true → after = tree) ∧
      (tree.isTopmost window = false →
        after.isTopmost window = false ∧ BetweenBands after.isTopmost after.order window)
  | .noTopmost =>
    (tree.isTopmost window = false → after = tree) ∧
      (tree.isTopmost window = true →
        after.isTopmost window = false ∧ BetweenBands after.isTopmost after.order window)
  | .after reference =>
    (reference ∉ tree.order →
        after.isTopmost window = false ∧ after.order = window :: without tree.order window) ∧
      (reference ∈ tree.order → after.isTopmost window = tree.isTopmost window ∧
        (tree.isTopmost reference = tree.isTopmost window →
          ∃ back front, after.order = back ++ reference :: window :: front) ∧
        (tree.isTopmost reference ≠ tree.isTopmost window →
          BetweenBands after.isTopmost after.order window))

/-! ## One directive -/

section Place

variable (isTopLevel : tree.kind? window = some (.topLevel flag))

include isTopLevel

theorem isTopmost_of_kind? : tree.isTopmost window = flag := by
  rw [isTopmost_eq, isTopLevel]
  cases flag <;> rfl

theorem isTopmost_place_self (directive : Directive) :
    (tree.place window directive).isTopmost window =
      directive.flagAfter (tree.isTopmost window) := by
  have placed := kind?_place directive window isTopLevel
  rw [if_pos rfl] at placed
  rw [isTopmost_of_kind? isTopLevel, isTopmost_of_kind? placed]

theorem isTopmost_place_of_ne (directive : Directive) (different : other ≠ window) :
    (tree.place window directive).isTopmost other = tree.isTopmost other := by
  rw [isTopmost_eq, isTopmost_eq, kind?_place directive other isTopLevel, if_neg different]

/-- A directive that keeps the flag keeps all flags. -/
theorem isTopmost_place_of_keeps (directive : Directive)
    (keeps : directive.flagAfter flag = flag) :
    (tree.place window directive).isTopmost = tree.isTopmost := by
  funext other
  by_cases isWindow : other = window
  · rw [isWindow, isTopmost_place_self isTopLevel, isTopmost_of_kind? isTopLevel, keeps]
  · exact isTopmost_place_of_ne isTopLevel directive isWindow

/-- A directive that keeps flag and order keeps the tree. -/
theorem place_eq_self (keeps : directive.flagAfter flag = flag)
    (order : Stacking.restacked tree.isTopmost tree.order window directive = tree.order) :
    tree.place window directive = tree := by
  unfold place
  rw [order, updateNode_eq_self]
  intro node found
  have kindIs : node.kind = .topLevel flag := by
    rw [kind?_of_node? found] at isTopLevel
    exact Option.some.inj isTopLevel
  rw [Node.topmost_of_kind kindIs, keeps, Node.setTopmost_of_kind kindIs, ← kindIs]

theorem betweenBands_place (directive : Directive)
    (banded : Banded tree.isTopmost tree.order) :
    BetweenBands (tree.place window directive).isTopmost
      ((without tree.order window).insertIdx
        (Stacking.boundary tree.isTopmost (without tree.order window)) window) window :=
  Stacking.betweenBands_insertIdx banded fun _ => isTopmost_place_of_ne isTopLevel directive

/-! ## The same directive once more -/

/-- The same directive once more finds flag and order as it leaves them. -/
theorem place_place (directive : Directive) :
    (tree.place window directive).place window directive = tree.place window directive := by
  have placed := kind?_place directive window isTopLevel
  rw [if_pos rfl] at placed
  refine place_eq_self placed ?_ ?_
  · cases directive <;> rfl
  · exact Stacking.restacked_restacked (isTopmost_place_self isTopLevel directive)
      fun _ => isTopmost_place_of_ne isTopLevel directive

end Place

/-- A directive is resolved by the windows of the order, wherever they stand. -/
theorem resolve_congr {first second : List WindowId} (same : first.Perm second)
    (directive : Directive) : directive.resolve first = directive.resolve second := by
  cases directive with
  | after reference => simp [Directive.resolve, same.mem_iff]
  | _ => rfl

/-! ## Where the window lands -/

theorem lands_place (banded : Banded tree.isTopmost tree.order)
    (isTopLevel : tree.kind? window = some (.topLevel flag)) (notSelf : directive ≠ .after window) :
    tree.Lands window (tree.place window (directive.resolve tree.order)) directive := by
  have own := isTopmost_of_kind? isTopLevel
  have flagAfter := isTopmost_place_self isTopLevel
  have between := fun directive => betweenBands_place isTopLevel directive banded
  cases directive with
  | bottom => exact ⟨flagAfter .bottom, rfl⟩
  | topmost => exact ⟨flagAfter .topmost, rfl⟩
  | top =>
      refine ⟨fun isTopmost => ?_, fun isNormal => ⟨(flagAfter .top).trans isNormal, ?_⟩⟩
      · exact place_eq_self isTopLevel rfl (if_pos isTopmost)
      · have order : (tree.place window .top).order = _ := if_neg (by simp [isNormal])
        exact order ▸ between .top
  | noTopmost =>
      refine ⟨fun isNormal => ?_, fun isTopmost => ⟨flagAfter .noTopmost, ?_⟩⟩
      · exact place_eq_self isTopLevel (own.symm.trans isNormal).symm (if_neg (by simp [isNormal]))
      · have order : (tree.place window .noTopmost).order = _ := if_pos isTopmost
        exact order ▸ between .noTopmost
  | after reference =>
      have different : reference ≠ window := fun same => notSelf (same ▸ rfl)
      refine ⟨fun absent => ?_, fun member => ?_⟩
      · rw [Directive.resolve, if_neg absent]
        exact ⟨flagAfter .bottom, rfl⟩
      · rw [Directive.resolve, if_pos member,
          isTopmost_place_of_keeps isTopLevel (.after reference) rfl]
        exact ⟨rfl, Stacking.restacked_after_of_sameBand banded member different,
          Stacking.restacked_after_of_otherBand banded member different⟩

/-- A directive for a window of the order is carried out unless it names the window itself. The
window lands where the directive says, all other windows keep their order and their state, and the
same directive once more changes nothing. -/
theorem restack_lands (distinct : tree.order.Nodup) (banded : Banded tree.isTopmost tree.order)
    (member : window ∈ tree.order) (isTopLevel : tree.holds Node.isTopLevel window = true)
    (notSelf : directive ≠ .after window) :
    ∃ after notices, tree.restack window directive = .ok (after, notices) ∧
      after.order.Perm tree.order ∧
      without after.order window = without tree.order window ∧
      (∀ other, other ≠ window → after.node? other = tree.node? other) ∧
      (∃ node flag, tree.node? window = some node ∧
        after.node? window = some { node with kind := .topLevel flag }) ∧
      { after with nodes := tree.nodes, order := tree.order } = tree ∧
      tree.Lands window after directive ∧
      ∃ again, after.restack window directive = .ok (after, again) := by
  obtain ⟨flag, isKind⟩ := holds_isTopLevel_iff.mp isTopLevel
  obtain ⟨node, found, kindIs⟩ := Option.map_eq_some_iff.mp isKind
  have sameWindows : (tree.place window (directive.resolve tree.order)).order.Perm tree.order :=
    Stacking.restacked_perm tree.isTopmost distinct member _
  obtain ⟨⟨after, notices⟩, restacked⟩ :=
    succeeds_restack (isLive_iff.mpr ⟨node, found⟩) notSelf
  obtain rfl := restack_eq_ok restacked
  refine ⟨_, notices, restacked, sameWindows, Stacking.without_restacked _ _ _ _,
    fun other different => ?_, ⟨node, _, found, node?_place_self _ found kindIs⟩, rfl,
    lands_place banded isKind notSelf, ?_⟩
  · rw [node?_place, if_neg different]
  · have live : (tree.place window (directive.resolve tree.order)).isLive window = true := by
      rw [isLive_eq_kind?, kind?_place _ _ isKind, if_pos rfl]
      rfl
    obtain ⟨⟨next, again⟩, restackedAgain⟩ := succeeds_restack live notSelf
    refine ⟨again, restackedAgain.trans ?_⟩
    rw [restack_eq_ok restackedAgain, resolve_congr sameWindows, place_place isKind]

/-- Two normal windows and two topmost ones. -/
def fourWindows : Tree :=
  let topLevel (id : WindowId) (topmost : Bool) : Node := { id, kind := .topLevel topmost }
  let listed : Tree := { order := [4, 3, 1, 2] }
  (((listed.addNode (topLevel 4 false)).addNode (topLevel 3 false)).addNode
    (topLevel 1 true)).addNode (topLevel 2 true)

/-- The back-most normal window is drawn to the front of its band by a topmost one, and the
front-most topmost window to the back of its band by a normal one. -/
theorem restack_lands_of_fourWindows :
    fourWindows.order.Nodup ∧ Banded fourWindows.isTopmost fourWindows.order ∧
      (∃ after notices, fourWindows.restack 4 (.after 2) = .ok (after, notices) ∧
        fourWindows.Lands 4 after (.after 2) ∧ after.order = [3, 4, 1, 2]) ∧
      ∃ after notices, fourWindows.restack 2 (.after 4) = .ok (after, notices) ∧
        fourWindows.Lands 2 after (.after 4) ∧ after.order = [4, 3, 2, 1] := by
  have distinct : fourWindows.order.Nodup := by decide
  have banded : Banded fourWindows.isTopmost fourWindows.order := by
    refine ⟨[4, 3], [1, 2], rfl, ?_, ?_⟩
    · exact List.forall_mem_cons.mpr ⟨by decide, List.forall_mem_singleton.mpr (by decide)⟩
    · exact List.forall_mem_cons.mpr ⟨by decide, List.forall_mem_singleton.mpr (by decide)⟩
  have orders : (fourWindows.restack 4 (.after 2)).map (·.1.order) = .ok [3, 4, 1, 2] ∧
      (fourWindows.restack 2 (.after 4)).map (·.1.order) = .ok [4, 3, 2, 1] := by
    decide +kernel
  obtain ⟨behind, said, restackedBack, -, -, -, -, -, landsBack, -⟩ :=
    restack_lands distinct banded (show 4 ∈ fourWindows.order by decide) (by decide)
      (show Directive.after 2 ≠ .after 4 by decide)
  obtain ⟨front, told, restackedFront, -, -, -, -, -, landsFront, -⟩ :=
    restack_lands distinct banded (show 2 ∈ fourWindows.order by decide) (by decide)
      (show Directive.after 4 ≠ .after 2 by decide)
  rw [restackedBack, restackedFront] at orders
  exact ⟨distinct, banded, ⟨behind, said, restackedBack, landsBack, Except.ok.inj orders.1⟩,
    front, told, restackedFront, landsFront, Except.ok.inj orders.2⟩

end Tree

end WindowRelay
