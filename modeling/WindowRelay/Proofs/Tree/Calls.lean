import WindowRelay.Proofs.Tree.Surfaces

/-!
Contract: the calls that events about windows send.

Owns:
- the two kinds of such calls: about a surface, and a command for a window;
- an event sends no others, whether its change is carried out or it is interrupted.
-/

namespace WindowRelay

/-- A call about a surface, or a command for a window. -/
def Call.concernsWindow : Call → Bool
  | .surfaceChanged .. | .systemCommand .. => true
  | _ => false

theorem concernsWindow_releaseCalls (node : Node) :
    ∀ call ∈ releaseCalls node, call.concernsWindow = true := by
  intro call member
  obtain ⟨kind, -, rfl⟩ := List.mem_map.mp member
  rfl

/-! ## Interrupted events -/

section Failing

variable {γ δ : Type}

/-- If the work is interrupted, the calls in front of that concern windows. -/
def SendsAboutWindows (outcome : Except Failure γ) : Prop :=
  ∀ interruption, outcome = .error (.interrupted interruption) →
    ∀ call ∈ interruption.sent, call.concernsWindow = true

theorem sendsAboutWindows_ok (value : γ) : SendsAboutWindows (.ok value) :=
  fun _ => nofun

theorem sendsAboutWindows_refused (error : WindowError) :
    SendsAboutWindows (.error (.refused error) : Except Failure γ) :=
  fun _ => nofun

theorem sendsAboutWindows_bind {first : Except Failure γ} {next : γ → Except Failure δ}
    (start : SendsAboutWindows first) (later : ∀ value, SendsAboutWindows (next value)) :
    SendsAboutWindows (first >>= next) := by
  intro interruption failed
  cases first with
  | ok value => exact later value interruption failed
  | error cause =>
      cases failed
      exact start interruption rfl

theorem sendsAboutWindows_liftOverflow (outcome : Except Overflow γ) :
    SendsAboutWindows (liftM outcome : Except Failure γ) := by
  intro interruption failed
  cases outcome with
  | ok value => cases failed
  | error cause =>
      cases failed
      exact fun _ => nofun

theorem sendsAboutWindows_liftRefusal (outcome : Except WindowError γ) :
    SendsAboutWindows (liftM outcome : Except Failure γ) := by
  intro interruption failed
  cases outcome <;> cases failed

/-- Views that are worked out behind the release of a window's surfaces. -/
theorem sendsAboutWindows_release (node : Node) (views : Except Overflow γ) :
    SendsAboutWindows
      (liftM (Interruption.after (releaseCalls node) views) : Except Failure γ) := by
  intro interruption failed
  cases views with
  | ok value => cases failed
  | error cause =>
      cases failed
      exact concernsWindow_releaseCalls node

end Failing

namespace Tree

variable {tree : Tree} {id : WindowId} {node : Node} {change : Change}
  {hasViews : WindowId → Bool} {event : TreeEvent}

theorem sendsAboutWindows_createTopLevel (tree : Tree) (id : WindowId) (scale : Binary32)
    (process : UInt32) : SendsAboutWindows (tree.createTopLevel id scale process) :=
  sendsAboutWindows_bind (sendsAboutWindows_liftOverflow _) fun _ => sendsAboutWindows_ok _

theorem sendsAboutWindows_createChild (tree : Tree) (hasViews : WindowId → Bool) (id : WindowId)
    (parent : Option WindowId) (scale : Binary32) (process : UInt32) :
    SendsAboutWindows (tree.createChild hasViews id parent scale process) := by
  have views : ∀ linked : Tree, SendsAboutWindows (do
      let created := linked.addNode { id, kind := .child, scale, process, parent }
      let commands ← created.ensureViews hasViews id
      pure { tree := created, commands } : Except Failure Change) :=
    fun _ => sendsAboutWindows_bind (sendsAboutWindows_liftOverflow _)
      fun _ => sendsAboutWindows_ok _
  unfold createChild
  repeat' split
  · exact sendsAboutWindows_bind (sendsAboutWindows_ok _) views
  · exact sendsAboutWindows_bind (sendsAboutWindows_ok _) views
  · exact sendsAboutWindows_bind (sendsAboutWindows_refused _) views

theorem sendsAboutWindows_create (tree : Tree) (hasViews : WindowId → Bool) (id parent : WindowId)
    (scale : Binary32) (accelerated : Bool) (process : UInt32) :
    SendsAboutWindows (tree.create hasViews id parent scale accelerated process) := by
  unfold create
  split
  · exact sendsAboutWindows_refused _
  · split
    · split
      · exact sendsAboutWindows_ok _
      · exact sendsAboutWindows_refused _
    · dsimp only
      split
      · exact sendsAboutWindows_bind (sendsAboutWindows_createTopLevel tree id scale process)
          fun _ => sendsAboutWindows_ok _
      · exact sendsAboutWindows_bind
          (sendsAboutWindows_createChild tree hasViews id _ scale process)
          fun _ => sendsAboutWindows_ok _

theorem sendsAboutWindows_move (tree : Tree) (hasViews : WindowId → Bool) (node : Node)
    (parent : WindowId) : SendsAboutWindows (tree.move hasViews node parent) := by
  unfold move
  refine sendsAboutWindows_bind (sendsAboutWindows_liftOverflow _) fun _ => ?_
  dsimp only
  split
  · exact sendsAboutWindows_bind (sendsAboutWindows_liftOverflow _) fun _ => sendsAboutWindows_ok _
  · exact sendsAboutWindows_bind (sendsAboutWindows_liftOverflow _) fun _ => sendsAboutWindows_ok _

theorem sendsAboutWindows_reparent (tree : Tree) (hasViews : WindowId → Bool)
    (id parent : WindowId) (scale : Binary32) :
    SendsAboutWindows (tree.reparent hasViews id parent scale) := by
  have rebuilt : ∀ (node : Node) (views : Except Overflow (List Scene.Command))
      (next : List Scene.Command → Change), SendsAboutWindows (do
        let change ← (do
          let views ← Interruption.after (releaseCalls node) views
          pure (next views) : Except Failure Change)
        pure { change with tree := change.tree.rescale id scale } : Except Failure Change) :=
    fun node views _ => sendsAboutWindows_bind
      (sendsAboutWindows_bind (sendsAboutWindows_release node views)
        fun _ => sendsAboutWindows_ok _) fun _ => sendsAboutWindows_ok _
  unfold reparent
  cases tree.moveRefusal id parent with
  | some error => exact sendsAboutWindows_refused _
  | none =>
      dsimp only
      cases tree.node? id with
      | none => exact sendsAboutWindows_refused _
      | some node =>
          dsimp only
          repeat' split
          · exact rebuilt node _ _
          · exact sendsAboutWindows_ok _
          · exact rebuilt node _ _
          · exact sendsAboutWindows_ok _
          · exact sendsAboutWindows_bind (sendsAboutWindows_move tree hasViews node parent)
              fun _ => sendsAboutWindows_ok _

theorem sendsAboutWindows_position (tree : Tree) (hasViews : WindowId → Bool) (id : WindowId)
    (placement : Placement) : SendsAboutWindows (tree.position hasViews id placement) := by
  unfold position
  repeat' split
  · exact sendsAboutWindows_refused _
  · exact sendsAboutWindows_refused _
  · exact sendsAboutWindows_ok _
  · unfold positionTopLevel
    refine sendsAboutWindows_bind (sendsAboutWindows_liftOverflow _) fun _ => ?_
    refine sendsAboutWindows_bind (sendsAboutWindows_liftOverflow _) fun _ => ?_
    refine sendsAboutWindows_bind (sendsAboutWindows_liftOverflow _) fun _ => ?_
    dsimp only
    split
    · exact sendsAboutWindows_bind (sendsAboutWindows_liftRefusal _) fun _ => sendsAboutWindows_ok _
    · exact sendsAboutWindows_ok _
  · unfold positionChild
    refine sendsAboutWindows_bind (sendsAboutWindows_liftOverflow _) fun _ => ?_
    have footprints : ∀ (area : Rect) (next : Rect → Change), SendsAboutWindows (do
        let footprint ← Layout.padded area
        pure (next footprint) : Except Failure Change) :=
      fun _ _ => sendsAboutWindows_bind (sendsAboutWindows_liftOverflow _)
        fun _ => sendsAboutWindows_ok _
    have layouts : ∀ (place area : Rect) (next : Rect → Rect → Change), SendsAboutWindows (do
        let whole ← Layout.padded place
        let footprint ← Layout.padded area
        pure (next whole footprint) : Except Failure Change) :=
      fun _ area _ => sendsAboutWindows_bind (sendsAboutWindows_liftOverflow _)
        fun _ => footprints area _
    dsimp only
    split
    · refine sendsAboutWindows_bind (sendsAboutWindows_liftRefusal _) fun _ => ?_
      repeat' split
      · exact footprints _ _
      · exact layouts _ _ _
      · exact sendsAboutWindows_ok _
    · repeat' split
      · exact footprints _ _
      · exact layouts _ _ _
      · exact sendsAboutWindows_ok _

theorem sendsAboutWindows_onLive {onNode : Node → Except Failure Change}
    (sends : ∀ node, SendsAboutWindows (onNode node)) :
    SendsAboutWindows (tree.onLive id onNode) := by
  unfold onLive
  split
  · exact sendsAboutWindows_refused _
  · next node _ => exact sends node

/-- An interrupted event has sent calls about windows only. -/
theorem sendsAboutWindows_change (tree : Tree) (hasViews : WindowId → Bool) (event : TreeEvent) :
    SendsAboutWindows (tree.change hasViews event) := by
  cases event with
  | createDesktop id =>
      show SendsAboutWindows (tree.createDesktop id)
      unfold createDesktop
      repeat' split
      · exact sendsAboutWindows_refused _
      · exact sendsAboutWindows_refused _
      · exact sendsAboutWindows_ok _
  | create id parent scale accelerated process =>
      exact sendsAboutWindows_create tree hasViews id parent scale accelerated process
  | startAccelerated id =>
      show SendsAboutWindows (tree.startAccelerated id)
      unfold startAccelerated
      split
      · exact sendsAboutWindows_ok _
      · exact sendsAboutWindows_refused _
  | reparent id parent scale =>
      exact sendsAboutWindows_reparent tree hasViews id parent scale
  | position id placement => exact sendsAboutWindows_position tree hasViews id placement
  | focus id =>
      refine sendsAboutWindows_onLive fun node => ?_
      split <;> exact sendsAboutWindows_ok _
  | surfaceAvailable id kind handle =>
      exact sendsAboutWindows_onLive fun _ => sendsAboutWindows_bind
        (sendsAboutWindows_liftOverflow _) fun _ => sendsAboutWindows_bind
          (sendsAboutWindows_liftOverflow _) fun _ => sendsAboutWindows_ok _
  | destroy | activityStarted | activityStopped => exact sendsAboutWindows_ok _
  | setText | setIcon | surfaceDestroyed | viewVisibility =>
      exact sendsAboutWindows_onLive fun _ => sendsAboutWindows_ok _

/-! ## Accepted events -/

theorem concernsWindow_destroy (tree : Tree) (root : WindowId) :
    ∀ call ∈ (tree.destroy root).calls, call.concernsWindow = true := by
  have one : ∀ (before : Tree) (id : WindowId), ∀ call ∈ (before.destroyOne id).calls,
      call.concernsWindow = true := by
    intro before id call member
    rw [calls_destroyOne] at member
    cases found : before.node? id with
    | none => simp [found] at member
    | some node => exact concernsWindow_releaseCalls node call (by simpa [found] using member)
  -- The induction is on the windows that are still to go.
  have all : ∀ (ids : List WindowId) (change : Change),
      (∀ call ∈ change.calls, call.concernsWindow = true) →
      ∀ call ∈ (ids.foldl (fun change window => change.followedBy (·.destroyOne window))
        change).calls, call.concernsWindow = true := by
    intro ids
    induction ids with
    | nil => exact fun _ before => before
    | cons id rest inductionHypothesis =>
        intro change before
        refine inductionHypothesis _ fun call member => ?_
        rcases List.mem_append.mp member with earlier | now
        · exact before call earlier
        · exact one change.tree id call now
  exact all _ { tree } (fun _ => nofun)

/-- A carried-out event sends calls about windows only. -/
theorem concernsWindow_change (accepted : tree.change hasViews event = .ok change) :
    ∀ call ∈ change.calls, call.concernsWindow = true := by
  have silent : change.calls = [] → ∀ call ∈ change.calls, call.concernsWindow = true := by
    intro noCalls
    rw [noCalls]
    exact fun _ => nofun
  cases event with
  | createDesktop id =>
      obtain ⟨-, -, rfl⟩ := createDesktop_eq_ok accepted
      exact silent rfl
  | create id parent scale accelerated process => exact silent (calls_create accepted)
  | startAccelerated id =>
      rw [startAccelerated_eq_ok accepted] at silent ⊢
      exact silent rfl
  | destroy root =>
      cases accepted
      exact concernsWindow_destroy tree root
  | reparent id parent scale =>
      obtain ⟨node, first, -, -, rfl, moves⟩ := reparent_eq_ok accepted
      rcases moves with rfl | ⟨-, promoted⟩ | ⟨-, -, demoted⟩ | ⟨-, -, -, moved⟩
      · exact silent rfl
      · obtain ⟨views, -, rfl⟩ := promote_eq_ok promoted
        exact concernsWindow_releaseCalls node
      · obtain ⟨views, -, rfl⟩ := demote_eq_ok demoted
        exact concernsWindow_releaseCalls node
      · obtain ⟨above, here, -, -, rfl⟩ := move_eq_ok moved
        exact silent rfl
  | position id placement => exact silent (calls_position accepted)
  | focus id =>
      obtain ⟨node, -, focused⟩ := onLive_eq_ok accepted
      split at focused <;> cases focused <;> exact silent rfl
  | setText id text =>
      obtain ⟨node, -, changed⟩ := onLive_eq_ok accepted
      cases changed
      exact silent (calls_announcingIf _ _)
  | setIcon id icon =>
      obtain ⟨node, -, changed⟩ := onLive_eq_ok accepted
      cases changed
      exact silent (calls_announcingIf _ _)
  | surfaceAvailable id kind handle =>
      obtain ⟨node, parking, restoring, -, -, -, rfl⟩ := surfaceAvailable_eq_ok accepted
      intro call member
      obtain rfl := List.mem_singleton.mp member
      rfl
  | surfaceDestroyed id kind =>
      obtain ⟨node, -, rfl⟩ := surfaceDestroyed_eq_ok accepted
      intro call member
      dsimp only at member
      split at member
      · obtain rfl := List.mem_singleton.mp member
        rfl
      · cases member
  | viewVisibility id kind visible =>
      obtain ⟨node, -, reported⟩ := onLive_eq_ok accepted
      cases reported
      intro call member
      dsimp only at member
      repeat' split at member
      · obtain rfl := List.mem_singleton.mp member
        rfl
      · cases member
      · cases member
  | activityStarted =>
      cases accepted
      intro call member
      obtain ⟨id, -, rfl⟩ := List.mem_map.mp member
      rfl
  | activityStopped =>
      cases accepted
      exact silent rfl

end Tree

end WindowRelay
