import WindowRelay.Proofs.Desk.Histories

/-!
Contract: the host views after every run.

Owns:
- views exist for every window but the desktop window, for the desktop window once it is a parent,
  and for nothing that is not live;
- the whole content belongs to the top-level windows, the client content to the accelerated ones;
- a window stays accelerated as long as it is live.
-/

namespace WindowRelay

/-- The contents of the views of a window. -/
def Furnished (node : Node) (face : View) (_ : Unit) : Prop :=
  face.wholeContent = node.isTopLevel ∧ face.clientContent = node.accelerated

namespace Turn

variable {id : WindowId} {node after : Node} {face built : View} {event : TreeEvent}

theorem furnished (turn : Turn id node face event after built) (before : Furnished node face ()) :
    Furnished after built () := by
  cases turn with
  | accelerated starts => exact ⟨before.1, rfl⟩
  | rebuilt switches sameMode unbound builds => exact ⟨builds.wholeContent, builds.clientContent⟩
  | spared | placed | stayed | moved | backedWhole | backedClient | released => exact before

theorem isAccelerated (turn : Turn id node face event after built)
    (before : node.accelerated = true) : after.accelerated = true := by
  cases turn with
  | accelerated starts => rfl
  | rebuilt switches sameMode unbound builds => exact sameMode.trans before
  | spared | placed | stayed | moved | backedWhole | backedClient | released => exact before

end Turn

/-! ## Accelerated rendering -/

namespace Tree

variable {tree : Tree} {id : WindowId} {event : TreeEvent} {change : Change}
  {hasViews : WindowId → Bool}

theorem holds_accelerated_eq (tree : Tree) (id : WindowId) :
    tree.holds Node.accelerated id = (tree.portrait? id).any Node.accelerated := by
  unfold holds portrait?
  cases tree.node? id <;> rfl

/-- The change keeps a window accelerated. -/
def KeepsAccelerated (tree : Tree) (change : Change) (id : WindowId) : Prop :=
  tree.holds Node.accelerated id = true → change.tree.holds Node.accelerated id = true

theorem keepsAccelerated_of_edit {edit : Node → Node}
    (portraits : change.tree.portrait? id = (tree.portrait? id).map edit)
    (keeps : ∀ node, node.accelerated = true → (edit node).accelerated = true) :
    KeepsAccelerated tree change id := by
  unfold KeepsAccelerated
  rw [holds_accelerated_eq, holds_accelerated_eq, portraits]
  cases tree.portrait? id with
  | none => exact fun impossible => impossible
  | some node => exact keeps node

theorem keepsAccelerated_of_spares (spares : Spares tree hasViews change id) :
    KeepsAccelerated tree change id :=
  keepsAccelerated_of_edit (spares.portrait.trans Option.map_id'.symm) fun _ isAccelerated =>
    isAccelerated

/-- The desktop window has no turns, because it need not have views. -/
theorem keepsAccelerated_of_desktop (isDesktop : tree.kind? id = some .desktop)
    (touches : event.touches id = true) (accepted : tree.change hasViews event = .ok change) :
    KeepsAccelerated tree change id := by
  have accelerating : KeepsAccelerated tree (tree.accelerate id) id :=
    keepsAccelerated_of_edit ((portrait?_accelerate tree id id).trans (if_pos rfl)) fun _ _ => rfl
  have isOnlyDesktop : ∀ node, tree.node? id = some node → node.kind = .desktop :=
    fun node found => Option.some.inj ((kind?_of_node? found).symm.trans isDesktop)
  cases event with
  | create target parent scale accelerated process =>
      cases beq_iff_eq.mp touches
      rcases create_eq_ok accepted with ⟨-, -, rfl⟩ | ⟨dead, -⟩
      · exact accelerating
      · exact absurd (by rw [isLive_eq_kind?, isDesktop]; rfl) dead
  | startAccelerated target =>
      cases beq_iff_eq.mp touches
      rw [startAccelerated_eq_ok accepted]
      exact accelerating
  | reparent target parent scale =>
      cases beq_iff_eq.mp touches
      obtain ⟨node, -, found, notDesktop, -⟩ := reparent_eq_ok accepted
      exact absurd (isOnlyDesktop node found) notDesktop
  | position target placement =>
      cases beq_iff_eq.mp touches
      obtain ⟨node, found, ⟨-, rfl⟩ | ⟨⟨flag, isTopLevel⟩, -⟩ | ⟨isChild, -⟩⟩ :=
        position_eq_ok accepted
      · exact keepsAccelerated_of_edit ((portrait?_store tree id id placement).trans (if_pos rfl))
          fun _ isAccelerated => isAccelerated
      · simp [isOnlyDesktop node found] at isTopLevel
      · simp [isOnlyDesktop node found] at isChild
  | surfaceAvailable target kind handle =>
      cases beq_iff_eq.mp touches
      obtain ⟨node, parking, restoring, -, -, -, rfl⟩ := surfaceAvailable_eq_ok accepted
      exact keepsAccelerated_of_edit ((portrait?_setSurfaces tree id id _).trans (if_pos rfl))
        fun _ isAccelerated => isAccelerated
  | surfaceDestroyed target kind =>
      cases beq_iff_eq.mp touches
      obtain ⟨node, -, rfl⟩ := surfaceDestroyed_eq_ok accepted
      exact keepsAccelerated_of_edit ((portrait?_setSurfaces tree id id _).trans (if_pos rfl))
        fun _ isAccelerated => isAccelerated
  | createDesktop | destroy | focus | setText | setIcon | viewVisibility | activityStarted
  | activityStopped => cases touches

/-- A window that an accepted event does not remove stays accelerated. -/
theorem keepsAccelerated_of_change (forest : tree.Forest) (hosting : Hosting tree hasViews)
    (accepted : tree.change hasViews event = .ok change) (live : tree.isLive id = true)
    (stays : change.tree.isLive id = true) : KeepsAccelerated tree change id := by
  by_cases isDesktop : tree.kind? id = some .desktop
  · cases touches : event.touches id with
    | false =>
        exact keepsAccelerated_of_spares
          (spares_of_change forest hosting live accepted touches stays)
    | true => exact keepsAccelerated_of_desktop isDesktop touches accepted
  · intro isAccelerated
    rw [isLive_eq_portrait?] at live stays
    obtain ⟨node, found⟩ := Option.isSome_iff_exists.mp live
    obtain ⟨after, foundAfter⟩ := Option.isSome_iff_exists.mp stays
    rw [holds_accelerated_eq, found] at isAccelerated
    rw [holds_accelerated_eq, foundAfter]
    have isHosted : hasViews id = true := by
      obtain ⟨kind, isKind⟩ : ∃ kind, tree.kind? id = some kind := by
        rw [← Option.isSome_iff_exists, ← isLive_eq_kind?, isLive_eq_portrait?]
        exact live
      exact hosting.views id kind isKind fun same => isDesktop (same ▸ isKind)
    have turns : Turns tree id {} event change :=
      turns_of_change forest hosting isDesktop isHosted accepted
    obtain ⟨built, -, turn⟩ := turns node after found foundAfter
    exact turn.isAccelerated isAccelerated

end Tree

namespace Desk

variable {reserveFront : Bool} {events : List TreeEvent} {desk : Desk} {output : Output}

/-- Nothing has to be remembered for the contents. -/
theorem furnished_carried (id : WindowId) : Carried Furnished (fun _ _ _ => none) id where
  begins _ _ builds := ⟨builds.wholeContent, builds.clientContent⟩
  turns _ turn furnished := turn.furnished furnished

/-- A window that is live all the time stays accelerated. -/
theorem isAccelerated_of_run {more : List TreeEvent} {last : Desk} {later : Output} {id : WindowId}
    (good : desk.tree.Forest ∧ Shows desk.tree desk.scene)
    (ran : desk.run more = .ok (last, later))
    (lives : ∀ soFar reached sent, soFar <+: more → desk.run soFar = .ok (reached, sent) →
      reached.tree.isLive id = true)
    (isAccelerated : desk.tree.holds Node.accelerated id = true) :
    last.tree.holds Node.accelerated id = true := by
  induction more generalizing desk later with
  | nil =>
      cases ran
      exact isAccelerated
  | cons event rest inductionHypothesis =>
      obtain ⟨next, sent, remaining, stepped, ranLater, -⟩ := run_cons.mp ran
      have livesLater : ∀ soFar reached sent, soFar <+: rest →
          next.run soFar = .ok (reached, sent) → reached.tree.isLive id = true := by
        intro soFar reached sentLater isPrefix ranSoFar
        refine lives (event :: soFar) reached (sent ++ sentLater)
          (List.cons_prefix_cons.mpr ⟨rfl, isPrefix⟩) ?_
        exact run_cons.mpr ⟨next, sent, sentLater, stepped, ranSoFar, rfl⟩
      have live := lives [] desk {} List.nil_prefix rfl
      have nextLive := livesLater [] next {} List.nil_prefix rfl
      rcases step_eq_ok stepped with rfl | ⟨change, accepted, rfl⟩
      · exact inductionHypothesis good ranLater livesLater isAccelerated
      · obtain ⟨forest, shows⟩ := good
        exact inductionHypothesis
          ⟨forest.ofChange accepted, shows_of_change shows forest accepted⟩ ranLater livesLater
          (Tree.keepsAccelerated_of_change forest shows.hosting accepted live nextLive
            isAccelerated)

/-- Every window but the desktop window has views, and so has a desktop window with children; a
window that is not live has none and is in no container. The whole content belongs to the top-level
windows and the client content to the accelerated ones, and a window stays accelerated as long as it
is live. -/
theorem views_follow_windows (ran : (fresh reserveFront).run events = .ok (desk, output)) :
    (∀ id node, desk.tree.node? id = some node → node.kind ≠ .desktop →
      ∃ view, desk.scene.view? id = some view ∧ view.wholeContent = node.isTopLevel ∧
        view.clientContent = node.accelerated) ∧
    (∀ id node, desk.tree.node? id = some node → node.children ≠ [] →
      desk.scene.hasViews id = true) ∧
    (∀ id, desk.tree.isLive id = false →
      desk.scene.hasViews id = false ∧ ∀ container, id ∉ desk.scene.children container) ∧
    ∀ more last later, desk.run more = .ok (last, later) → ∀ id,
      (∀ soFar reached sent, soFar <+: more → desk.run soFar = .ok (reached, sent) →
        reached.tree.isLive id = true) →
      desk.tree.holds Node.accelerated id = true → last.tree.holds Node.accelerated id = true := by
  obtain ⟨forest, shows⟩ := shows_of_run ran
  refine ⟨fun id node found notDesktop => ?_, fun id node found hasChildren => ?_,
    fun id dead => ?_, fun more last later ranMore id lives isAccelerated =>
      isAccelerated_of_run ⟨forest, shows⟩ ranMore lives isAccelerated⟩
  · have pictures := pictures_of_run (furnished_carried id) () ran
    obtain ⟨view, isView, wholeContent, clientContent⟩ := pictures.exists_view found notDesktop
    exact ⟨view, isView, wholeContent.trans node.isTopLevel_portrait, clientContent⟩
  · obtain ⟨child, member⟩ := List.exists_mem_of_ne_nil node.children hasChildren
    rw [← Tree.children_of_node? found] at member
    exact shows.hosting.above child id ((forest.links.linked child id).mpr member)
  · have notLive : ¬ desk.tree.isLive id = true := by simp [dead]
    refine ⟨shows.hosting.not_hosted notLive, fun container member => ?_⟩
    cases container with
    | desktop =>
        exact forest.not_mem_order_of_dead notLive (shows.inStep.sameWindows.mem_iff.mp member)
    | client parent =>
        rw [shows.mounted.lists] at member
        have link := (forest.links.linked id parent).mpr (List.mem_of_mem_filter member)
        exact notLive (forest.isLive_of_child link).1

/-- The desktop window and an accelerated top-level window get a child each, and one of the two
children is destroyed again. -/
def contentRun : List TreeEvent :=
  [.createDesktop 1,
    .create 16 0 Binary32.one true 0,
    .create 17 16 Binary32.one false 0,
    .create 32 1 Binary32.one false 0,
    .destroy 17]

theorem views_follow_windows_after_contentRun :
    ∃ desk output last later, (fresh true).run contentRun = .ok (desk, output) ∧
      desk.run [.reparent 16 1 Binary32.one] = .ok (last, later) ∧
      (∃ view, desk.scene.view? 16 = some view ∧ view.wholeContent = true ∧
        view.clientContent = true) ∧
      desk.scene.hasViews 1 = true ∧ desk.scene.hasViews 17 = false ∧
      17 ∉ desk.scene.children (.client 16) ∧
      last.tree.holds Node.accelerated 16 = true := by
  have passes : (fresh true).finishes contentRun
      (fun desk =>
        (desk.tree.holds fun node => node.kind ≠ .desktop ∧ node.isTopLevel ∧ node.accelerated) 16 ∧
        (desk.tree.holds fun node => node.children ≠ []) 1 ∧ desk.tree.isLive 17 = false ∧
        desk.finishes [.reparent 16 1 Binary32.one] (fun last => last.tree.isLive 16) = true) =
          true := by
    decide +kernel
  obtain ⟨desk, output, ran, passed⟩ := exists_of_finishes passes
  obtain ⟨top, parent, dead, moves⟩ := of_decide_eq_true passed
  obtain ⟨last, later, ranMore, stillLive⟩ := exists_of_finishes moves
  obtain ⟨contents, parents, deadViews, sticky⟩ := views_follow_windows ran
  obtain ⟨node, found, test⟩ := Tree.exists_of_holds top
  obtain ⟨notDesktop, isTopLevel, isAccelerated⟩ := of_decide_eq_true test
  obtain ⟨desktop, desktopFound, desktopTest⟩ := Tree.exists_of_holds parent
  obtain ⟨view, isView, wholeContent, clientContent⟩ := contents 16 node found notDesktop
  have accelerated : desk.tree.holds Node.accelerated 16 = true := by
    simp [Tree.holds, found, isAccelerated]
  refine ⟨desk, output, last, later, ran, ranMore,
    ⟨view, isView, wholeContent.trans isTopLevel, clientContent.trans isAccelerated⟩,
    parents 1 desktop desktopFound (of_decide_eq_true desktopTest), (deadViews 17 dead).1,
    (deadViews 17 dead).2 _, sticky _ last later ranMore 16 ?_ accelerated⟩
  intro soFar reached sent isPrefix ranSoFar
  rcases List.prefix_cons_iff.mp isPrefix with rfl | ⟨rest, rfl, isNil⟩
  · cases ranSoFar
    exact Tree.isLive_iff.mpr ⟨node, found⟩
  · rw [List.prefix_nil.mp isNil, ranMore] at ranSoFar
    cases ranSoFar
    exact stillLive

end Desk

end WindowRelay
