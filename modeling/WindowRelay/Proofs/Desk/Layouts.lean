import WindowRelay.Proofs.Desk.Histories

/-!
Contract: the layouts of the host views after every run.

Owns:
- the whole container of each window stands where its rectangles, its visibility and its backing put
  it;
- the client container of each window has its real layout, or the kickoff layout if the window is
  accelerated.

A hidden window keeps its place when its backing is destroyed, so the present state does not tell
it from one whose backing never came; the answer beside the layouts does.
-/

namespace WindowRelay

/-- Whether a whole backing was destroyed since the window was settled. -/
def backingLoss (id : WindowId) : Note Bool := fun before event after =>
  if event.settles id before after then some false
  else
    match event with
    | .surfaceDestroyed target .whole =>
      if id == target && before.any (·.surfaces.whole.isSome) then some true else none
    | _ => none

section Notes

variable {id : WindowId} {event : TreeEvent} {before after : Option Node}

theorem backingLoss_of_unsettled (unsettled : event.settles id before after = false)
    (keeps : event ≠ .surfaceDestroyed id .whole) : backingLoss id before event after = none := by
  unfold backingLoss
  rw [unsettled]
  split
  · contradiction
  · split
    · next target =>
        have different : (id == target) = false := by
          rw [beq_eq_false_iff_ne]
          exact fun isTarget => keeps (isTarget ▸ rfl)
        simp [different]
    · rfl

theorem backingLoss_of_settled (settled : event.settles id before after = true) :
    backingLoss id before event after = some false :=
  if_pos settled

end Notes

/-! ## Where the containers stand -/

/-- The place of the whole container of a top-level window, hidden with one pixel on the screen or
without. -/
def Node.placeWhen (node : Node) (keepPixel : Bool) : Except Overflow Rect :=
  if node.visible then .ok node.visibleRect else Layout.offscreen node.visibleRect keepPixel

namespace Node

variable {node : Node}

theorem placeWhen_of_visible (visible : node.visible = true) (keepPixel : Bool) :
    node.placeWhen keepPixel = .ok node.visibleRect :=
  if_pos visible

theorem placeWhen_of_hidden (hidden : node.visible = false) (keepPixel : Bool) :
    node.placeWhen keepPixel = Layout.offscreen node.visibleRect keepPixel :=
  if_neg (by simp [hidden])

end Node

/-- The layouts of the views of a window, if its whole backing was destroyed or not since it was
settled. -/
structure Mirrors (node : Node) (face : View) (lost : Bool) : Prop where
  topLevel : node.isTopLevel = true →
    node.placeWhen (node.surfaces.whole.isNone && !lost) = .ok face.wholeLayout
  child : node.kind = .child → node.parent.isSome = true →
    Layout.padded node.visibleRect = .ok face.wholeLayout
  client : node.clientLayout >>= Layout.padded = .ok face.clientLayout ∨
    (node.accelerated = true ∧ face.clientLayout = Layout.kickoff)

namespace Mirrors

variable {id : WindowId} {node after : Node} {face built : View} {event : TreeEvent} {lost : Bool}

/-- A window that has just been settled. -/
theorem of_places (places : node.Places face.wholeLayout)
    (client : node.clientLayout >>= Layout.padded = .ok face.clientLayout ∨
      (node.accelerated = true ∧ face.clientLayout = Layout.kickoff)) :
    Mirrors node face false where
  topLevel isTopLevel := by
    rw [Bool.not_false, Bool.and_true]
    exact places.topLevel isTopLevel
  child := places.child
  client := client

theorem of_builds (builds : node.Builds face) : Mirrors node face false := by
  refine of_places builds.whole ?_
  have client := builds.client
  split at client
  · next isAccelerated => exact .inr ⟨isAccelerated, client⟩
  · exact .inl client

theorem backedWhole (mirrors : Mirrors node face lost) {handle : Surface.Handle} {whole : Rect}
    (isWhole : (if node.isTopLevel && !node.visible && node.surfaces.whole.isNone then
        Layout.offscreen node.visibleRect false else .ok face.wholeLayout) = .ok whole) :
    Mirrors { node with surfaces := (node.surfaces.bind .whole handle).1 }
      { face with wholeLayout := whole } lost where
  topLevel isTopLevel := by
    have former := mirrors.topLevel isTopLevel
    have isTopLevelBefore : node.isTopLevel = true := isTopLevel
    have bound : (node.surfaces.bind .whole handle).1.whole = some handle :=
      Surface.Slots.get_bind_self node.surfaces .whole handle
    show node.placeWhen ((node.surfaces.bind .whole handle).1.whole.isNone && !lost) = _
    rw [bound, Option.isNone_some, Bool.false_and]
    cases visible : node.visible with
    | true =>
        rw [Node.placeWhen_of_visible visible] at former ⊢
        simpa [visible, ← former] using isWhole
    | false =>
        rw [Node.placeWhen_of_hidden visible] at former ⊢
        cases unbound : node.surfaces.whole.isNone with
        | true => simpa [isTopLevelBefore, visible, unbound] using isWhole
        | false =>
            rw [unbound, Bool.false_and] at former
            simpa [former, unbound] using isWhole
  child isChild hasParent := by
    have notTopLevel : node.isTopLevel = false := Node.isTopLevel_eq_false_of_child isChild
    rw [notTopLevel] at isWhole
    cases isWhole
    exact mirrors.child isChild hasParent
  client := mirrors.client

theorem backedClient (mirrors : Mirrors node face lost) {handle : Surface.Handle} {client : Rect}
    (isClient : (if node.surfaces.client = some handle then .ok face.clientLayout
        else node.clientLayout >>= Layout.padded) = .ok client) :
    Mirrors { node with surfaces := (node.surfaces.bind .client handle).1 }
      { face with clientLayout := client } lost where
  topLevel isTopLevel := by
    have sameWhole : (node.surfaces.bind .client handle).1.get .whole = node.surfaces.get .whole :=
      Surface.Slots.get_bind_of_ne node.surfaces handle (by simp)
    show node.placeWhen (((node.surfaces.bind .client handle).1.get .whole).isNone && !lost) = _
    rw [sameWhole]
    exact mirrors.topLevel isTopLevel
  child := mirrors.child
  client := by
    split at isClient
    · cases isClient
      exact mirrors.client
    · exact .inl isClient

/-- A hidden window keeps its place when its backing goes. -/
theorem released (mirrors : Mirrors node face lost) (kind : Surface.Kind) :
    Mirrors { node with surfaces := (node.surfaces.release kind).1 } face
      (lost || (kind = .whole && node.surfaces.whole.isSome)) where
  topLevel isTopLevel := by
    have former := mirrors.topLevel isTopLevel
    show node.placeWhen ((node.surfaces.release kind).1.whole.isNone && _) = _
    cases kind with
    | whole =>
        cases bound : node.surfaces.whole <;>
          simpa [bound, Surface.Slots.release, Surface.Slots.set] using former
    | client => simpa [Surface.Slots.release, Surface.Slots.set] using former
  child := mirrors.child
  client := mirrors.client

/-- What an event makes of a window keeps its layouts right. -/
theorem turn (mirrors : Mirrors node face lost) (turn : Turn id node face event after built) :
    Mirrors after built ((backingLoss id (some node) event (some after)).getD lost) := by
  cases turn with
  | spared away =>
      rw [backingLoss_of_unsettled (TreeEvent.settles_of_spared away)]
      · exact mirrors
      · rintro rfl
        simp [TreeEvent.touches] at away
  | accelerated starts =>
      rw [backingLoss_of_unsettled (TreeEvent.settles_of_accelerates starts)]
      · exact ⟨mirrors.topLevel, mirrors.child, .inr ⟨rfl, rfl⟩⟩
      · rintro rfl
        cases starts
  | placed places isClient =>
      rw [backingLoss_of_settled (by simp [TreeEvent.settles])]
      exact of_places places (.inl isClient)
  | stayed parent scale =>
      rw [backingLoss_of_unsettled (by simp [TreeEvent.settles_reparent]) (by simp)]
      exact mirrors
  | moved scale isChild isWhole =>
      have notTopLevel : node.isTopLevel = false := Node.isTopLevel_eq_false_of_child isChild
      rw [backingLoss_of_unsettled ?_ (by simp)]
      · exact ⟨fun isTopLevel => absurd (notTopLevel.symm.trans isTopLevel) (by simp),
          fun _ _ => isWhole, mirrors.client⟩
      · rw [TreeEvent.settles_reparent]
        exact bne_self_eq_false node.isTopLevel
  | rebuilt switches sameMode unbound builds =>
      rw [backingLoss_of_settled (by simp [TreeEvent.settles_reparent, switches])]
      exact of_builds builds
  | backedWhole isWhole =>
      rw [backingLoss_of_unsettled rfl (by simp)]
      exact mirrors.backedWhole isWhole
  | backedClient isClient =>
      rw [backingLoss_of_unsettled rfl (by simp)]
      exact mirrors.backedClient isClient
  | released kind =>
      have after := mirrors.released kind
      cases kind with
      | whole =>
          cases bound : node.surfaces.whole <;>
            simpa [backingLoss, TreeEvent.settles, bound] using after
      | client =>
          rw [backingLoss_of_unsettled rfl (by simp)]
          simpa using after

end Mirrors

namespace Desk

variable {reserveFront : Bool} {events : List TreeEvent} {desk : Desk} {output : Output}

theorem mirrors_carried (id : WindowId) : Carried Mirrors (backingLoss id) id where
  begins answer unbound builds := by
    rw [backingLoss_of_settled (by simp [TreeEvent.settles])]
    exact Mirrors.of_builds builds
  turns answer turn mirrors := mirrors.turn turn

/-- The whole container of a top-level window is at its visible rectangle, or parked off the screen
while it is hidden: with one pixel on the screen until a backing comes, and without from then on,
also when the backing is destroyed, until the window is settled again. The whole container of a
child has the footprint of its visible rectangle. The client container has the footprint of the
client area; that of an accelerated window may have the kickoff layout instead. -/
theorem layouts_mirror_rectangles (ran : (fresh reserveFront).run events = .ok (desk, output)) :
    ∀ id node, desk.tree.node? id = some node → node.kind ≠ .desktop →
      ∃ view, desk.scene.view? id = some view ∧
        (node.isTopLevel = true →
          (node.visible = true → view.wholeLayout = node.visibleRect) ∧
          (node.visible = false → node.surfaces.whole.isSome = true →
            Layout.offscreen node.visibleRect false = .ok view.wholeLayout) ∧
          (node.visible = false → node.surfaces.whole = none →
            Layout.offscreen node.visibleRect
                (!(fresh reserveFront).remembered (backingLoss id) id false events) =
              .ok view.wholeLayout)) ∧
        (node.kind = .child → node.parent.isSome = true →
          Layout.padded node.visibleRect = .ok view.wholeLayout) ∧
        (node.clientLayout >>= Layout.padded = .ok view.clientLayout ∨
          (node.accelerated = true ∧ view.clientLayout = Layout.kickoff)) := by
  intro id node found notDesktop
  have pictures := pictures_of_run (mirrors_carried id) false ran
  obtain ⟨view, isView, mirrors⟩ := pictures.exists_view found notDesktop
  refine ⟨view, isView, fun isTopLevel => ?_, fun isChild hasParent => ?_, mirrors.client⟩
  · have place := mirrors.topLevel (by simpa using isTopLevel)
    refine ⟨fun visible => ?_, fun hidden bound => ?_, fun hidden unbound => ?_⟩
    · rw [Node.placeWhen_of_visible (by simpa using visible)] at place
      exact (Except.ok.inj place).symm
    · have notNone : node.surfaces.whole.isNone = false := by simpa using bound
      rw [Node.placeWhen_of_hidden (by simpa using hidden), Node.surfaces_portrait,
        notNone] at place
      exact place
    · rw [Node.placeWhen_of_hidden (by simpa using hidden), Node.surfaces_portrait,
        unbound] at place
      exact place
  · exact mirrors.child (by simpa using isChild) hasParent

/-- Without accelerated rendering there is no kickoff layout. -/
theorem client_of_plain {node : Node} {face : View} {place : Rect}
    (plain : node.accelerated = false) (isPlace : node.clientLayout >>= Layout.padded = .ok place)
    (client : node.clientLayout >>= Layout.padded = .ok face.clientLayout ∨
      (node.accelerated = true ∧ face.clientLayout = Layout.kickoff)) :
    face.clientLayout = place := by
  rcases client with real | ⟨accelerated, -⟩
  · exact Except.ok.inj (real.symm.trans isPlace)
  · simp [plain] at accelerated

/-- The rectangles of the windows that stay hidden. -/
def hiddenPlacement : Placement :=
  { shortPlacement 0 0 with
    clientRect := ⟨34, 60, 226, 136⟩
    visibleRect := ⟨30, 40, 230, 140⟩ }

/-- A hidden top-level window with these rectangles and this whole backing. -/
def hiddenThere (whole : Option Surface.Handle) (node : Node) : Bool :=
  node.isTopLevel ∧ node.visible = false ∧ node.visibleRect = ⟨30, 40, 230, 140⟩ ∧
    node.clientLayout >>= Layout.padded = .ok ⟨4, 20, 196, 96⟩ ∧ node.accelerated = false ∧
    node.surfaces.whole = whole

/-- One window is shown; the backing of a second one stays, that of a third is destroyed and that of
a fourth does not come while they are hidden; the first one gets an accelerated child. -/
def layoutRun : List TreeEvent :=
  [.create 16 0 Binary32.one false 0,
    .position 16
      { shortPlacement 0 Style.visible with
        clientRect := ⟨14, 40, 106, 116⟩
        visibleRect := ⟨10, 20, 110, 120⟩ },
    .create 17 0 Binary32.one false 0,
    .position 17 hiddenPlacement,
    .surfaceAvailable 17 .whole 5,
    .create 18 0 Binary32.one false 0,
    .position 18 hiddenPlacement,
    .surfaceAvailable 18 .whole 6,
    .surfaceDestroyed 18 .whole,
    .create 19 0 Binary32.one false 0,
    .position 19 hiddenPlacement,
    .create 32 16 Binary32.one true 0]

/-- The windows that are hidden stand off the screen by their own size, the one whose backing never
came with one pixel on it. The client layout of the accelerated child is left open. -/
theorem layouts_mirror_rectangles_after_layoutRun :
    ∃ desk output, (fresh true).run layoutRun = .ok (desk, output) ∧
      (∃ view, desk.scene.view? 16 = some view ∧ view.wholeLayout = ⟨10, 20, 110, 120⟩ ∧
        view.clientLayout = ⟨4, 20, 96, 96⟩) ∧
      (∃ view, desk.scene.view? 17 = some view ∧ view.wholeLayout = ⟨-200, -100, 0, 0⟩ ∧
        view.clientLayout = ⟨4, 20, 196, 96⟩) ∧
      (∃ view, desk.scene.view? 18 = some view ∧ view.wholeLayout = ⟨-200, -100, 0, 0⟩ ∧
        view.clientLayout = ⟨4, 20, 196, 96⟩) ∧
      (∃ view, desk.scene.view? 19 = some view ∧ view.wholeLayout = ⟨-199, -99, 1, 1⟩ ∧
        view.clientLayout = ⟨4, 20, 196, 96⟩) ∧
      ∃ view, desk.scene.view? 32 = some view ∧ view.wholeLayout = ⟨0, 0, 2, 2⟩ ∧
        (view.clientLayout = ⟨0, 0, 2, 2⟩ ∨ view.clientLayout = Layout.kickoff) := by
  have passes : (fresh true).finishes layoutRun
      (fun desk =>
        (desk.tree.holds fun node => node.isTopLevel ∧ node.visible = true ∧
          node.visibleRect = ⟨10, 20, 110, 120⟩ ∧
          node.clientLayout >>= Layout.padded = .ok ⟨4, 20, 96, 96⟩ ∧
          node.accelerated = false) 16 = true ∧
        desk.tree.holds (hiddenThere (some 5)) 17 = true ∧
        (desk.tree.holds (hiddenThere none) 18 = true ∧
          desk.tree.holds (hiddenThere none) 19 = true) ∧
        (desk.tree.holds fun node => node.kind = .child ∧ node.parent = some 16 ∧
          node.visibleRect = Rect.zero ∧
          node.clientLayout >>= Layout.padded = .ok ⟨0, 0, 2, 2⟩) 32 = true) = true := by
    decide +kernel
  have lost : (fresh true).remembered (backingLoss 18) 18 false layoutRun = true := by
    decide +kernel
  have never : (fresh true).remembered (backingLoss 19) 19 false layoutRun = false := by
    decide +kernel
  have parked : Layout.offscreen ⟨30, 40, 230, 140⟩ false = .ok ⟨-200, -100, 0, 0⟩ := by decide
  have onePixel : Layout.offscreen ⟨30, 40, 230, 140⟩ true = .ok ⟨-199, -99, 1, 1⟩ := by decide
  obtain ⟨desk, output, ran, passed⟩ := exists_of_finishes passes
  obtain ⟨shown, backed, ⟨bareLost, bareNever⟩, inside⟩ := of_decide_eq_true passed
  have mirror := layouts_mirror_rectangles ran
  have notDesktop : ∀ node : Node, node.isTopLevel = true → node.kind ≠ .desktop :=
    fun node isTopLevel isDesktop => by simp [Node.isTopLevel, isDesktop] at isTopLevel
  have unbacked : ∀ id place, desk.tree.holds (hiddenThere none) id = true →
      Layout.offscreen ⟨30, 40, 230, 140⟩
        (!(fresh true).remembered (backingLoss id) id false layoutRun) = .ok place →
      ∃ view, desk.scene.view? id = some view ∧ view.wholeLayout = place ∧
        view.clientLayout = ⟨4, 20, 196, 96⟩ := by
    intro id place hidden isPlace
    obtain ⟨node, found, test⟩ := Tree.exists_of_holds hidden
    obtain ⟨isTopLevel, hidden, isRect, isClient, plain, unbound⟩ := of_decide_eq_true test
    obtain ⟨view, isView, topLevel, -, client⟩ := mirror id node found (notDesktop node isTopLevel)
    have there := (topLevel isTopLevel).2.2 hidden unbound
    rw [isRect] at there
    exact ⟨view, isView, Except.ok.inj (there.symm.trans isPlace),
      client_of_plain plain isClient client⟩
  refine ⟨desk, output, ran, ?_, ?_, ?_, ?_, ?_⟩
  · obtain ⟨node, found, test⟩ := Tree.exists_of_holds shown
    obtain ⟨isTopLevel, visible, isRect, isClient, plain⟩ := of_decide_eq_true test
    obtain ⟨view, isView, topLevel, -, client⟩ := mirror 16 node found (notDesktop node isTopLevel)
    exact ⟨view, isView, ((topLevel isTopLevel).1 visible).trans isRect,
      client_of_plain plain isClient client⟩
  · obtain ⟨node, found, test⟩ := Tree.exists_of_holds backed
    obtain ⟨isTopLevel, hidden, isRect, isClient, plain, bound⟩ := of_decide_eq_true test
    obtain ⟨view, isView, topLevel, -, client⟩ := mirror 17 node found (notDesktop node isTopLevel)
    have place := (topLevel isTopLevel).2.1 hidden (by simp [bound])
    rw [isRect, parked] at place
    exact ⟨view, isView, (Except.ok.inj place).symm, client_of_plain plain isClient client⟩
  · exact unbacked 18 _ bareLost (by rw [lost]; exact parked)
  · exact unbacked 19 _ bareNever (by rw [never]; exact onePixel)
  · obtain ⟨node, found, test⟩ := Tree.exists_of_holds inside
    obtain ⟨isChild, hasParent, isRect, isClient⟩ := of_decide_eq_true test
    obtain ⟨view, isView, -, child, client⟩ := mirror 32 node found (by simp [isChild])
    have footprint : Layout.padded Rect.zero = .ok ⟨0, 0, 2, 2⟩ := by decide
    have place := child isChild (by simp [hasParent])
    rw [isRect, footprint] at place
    exact ⟨view, isView, (Except.ok.inj place).symm,
      client.imp (fun real => Except.ok.inj (real.symm.trans isClient)) And.right⟩

end Desk

end WindowRelay
