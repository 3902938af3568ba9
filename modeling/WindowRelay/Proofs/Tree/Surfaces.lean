import WindowRelay.Proofs.Tree.Records

/-!
Contract: the bindings of surfaces, and what the window manager is told about them.

Owns:
- the binding of one kind of surface of one window, and the entries about it among some calls;
- the protocol: entries lead from one binding to another, and only a bound surface is released;
- the entries of every accepted event lead from the binding before it to the binding after it;
- the three ways in which a binding is lost.

The protocol relates two bindings and says nothing about how they came about, so the entries of one
event after another compose, whatever becomes of the window in between.
-/

namespace WindowRelay

open Surface (Handle)

/-! ## Entries -/

/-- What a call says about one kind of surface of one window: a handle, or that it is gone. -/
def Call.surfaceEntry? (id : WindowId) (kind : Surface.Kind) : Call → Option (Option Handle)
  | .surfaceChanged window surface client =>
    if window = id ∧ client = kind.isClient then some surface else none
  | _ => none

/-- What some calls say about one kind of surface of one window, in order. -/
def surfaceEntries (id : WindowId) (kind : Surface.Kind) (calls : List Call) :
    List (Option Handle) :=
  calls.filterMap (Call.surfaceEntry? id kind)

section Entries

variable {id : WindowId} {kind : Surface.Kind}

theorem surfaceEntries_append (first second : List Call) :
    surfaceEntries id kind (first ++ second) =
      surfaceEntries id kind first ++ surfaceEntries id kind second :=
  List.filterMap_append

theorem isClient_inj {first second : Surface.Kind} :
    first.isClient = second.isClient ↔ first = second := by
  cases first <;> cases second <;> simp [Surface.Kind.isClient]

theorem surfaceEntries_surfaceChanged (window : WindowId) (surface : Option Handle)
    (which : Surface.Kind) :
    surfaceEntries id kind [.surfaceChanged window surface which.isClient] =
      if window = id ∧ which = kind then [surface] else [] := by
  by_cases same : window = id ∧ which = kind <;>
    simp [surfaceEntries, Call.surfaceEntry?, isClient_inj, same]

/-- A window that is taken down tells once about each kind that is bound. -/
theorem surfaceEntries_releaseCalls (node : Node) :
    surfaceEntries id kind (releaseCalls node) =
      if node.id = id ∧ (node.surfaces.get kind).isSome then [none] else [] := by
  have entry : ∀ which, Call.surfaceEntry? id kind (.surfaceChanged node.id none which.isClient) =
      if node.id = id ∧ which = kind then some none else none := by
    intro which
    simp only [Call.surfaceEntry?, isClient_inj]
  unfold surfaceEntries releaseCalls
  rw [List.filterMap_map, Function.comp_def]
  simp only [entry, Surface.Slots.bound, List.filter_cons, List.filter_nil]
  by_cases same : node.id = id <;> cases kind <;> cases node.surfaces.get .whole <;>
    cases node.surfaces.get .client <;> simp [same]

end Entries

/-! ## The protocol -/

/-- Entries that lead from one binding to another. A surface may be announced at any time, again
or anew; that it is gone is only told of a bound one. -/
inductive Told : Option Handle → List (Option Handle) → Option Handle → Prop where
  | nil (binding : Option Handle) : Told binding [] binding
  | bound {before : Option Handle} (handle : Handle) {rest : List (Option Handle)}
      {after : Option Handle} (later : Told (some handle) rest after) :
      Told before (some handle :: rest) after
  | released {handle : Handle} {rest : List (Option Handle)} {after : Option Handle}
      (later : Told none rest after) : Told (some handle) (none :: rest) after

namespace Told

variable {before middle after : Option Handle} {entries later : List (Option Handle)}

theorem append (first : Told before entries middle) (second : Told middle later after) :
    Told before (entries ++ later) after := by
  induction first with
  | nil => exact second
  | bound handle _ inductionHypothesis => exact .bound handle (inductionHypothesis second)
  | released _ inductionHypothesis => exact .released (inductionHypothesis second)

theorem split (told : Told before (entries ++ later) after) :
    ∃ middle, Told before entries middle ∧ Told middle later after := by
  induction entries generalizing before with
  | nil => exact ⟨before, .nil before, told⟩
  | cons entry rest inductionHypothesis =>
      cases told with
      | bound handle remaining =>
          obtain ⟨middle, first, second⟩ := inductionHypothesis remaining
          exact ⟨middle, .bound handle first, second⟩
      | released remaining =>
          obtain ⟨middle, first, second⟩ := inductionHypothesis remaining
          exact ⟨middle, .released first, second⟩

/-- The last entry is the binding; without entries it is the former one. -/
theorem after_eq (told : Told before entries after) : after = entries.getLast?.getD before := by
  induction told with
  | nil => rfl
  | bound handle _ inductionHypothesis => simp [inductionHypothesis, List.getLast?_cons]
  | released _ inductionHypothesis => simp [inductionHypothesis, List.getLast?_cons]

theorem getLast?_eq_some_iff (told : Told none entries after) {handle : Handle} :
    entries.getLast? = some (some handle) ↔ after = some handle := by
  rw [told.after_eq]
  cases entries.getLast? <;> simp

theorem eq_nil_or_getLast? (told : Told none entries none) :
    entries = [] ∨ entries.getLast? = some none := by
  have last := told.after_eq
  cases lastIs : entries.getLast? with
  | none => exact .inl (List.getLast?_eq_none_iff.mp lastIs)
  | some entry =>
      rw [lastIs] at last
      exact .inr (congrArg some last.symm)

/-- In front of a release stands the announcement of a surface. -/
theorem announced_before_release {earlier : List (Option Handle)}
    (told : Told none (earlier ++ none :: later) after) :
    ∃ front handle, earlier = front ++ [some handle] := by
  obtain ⟨middle, first, second⟩ := told.split
  cases second with
  | @released handle rest after remaining =>
      obtain ⟨front, isLast⟩ := List.getLast?_eq_some_iff.mp (first.getLast?_eq_some_iff.mpr rfl)
      exact ⟨front, handle, isLast⟩

end Told

/-- Events that bind no surface and release none. -/
def TreeEvent.keepsSurfaces : TreeEvent → Bool
  | .destroy _ | .reparent .. | .surfaceAvailable .. | .surfaceDestroyed .. => false
  | _ => true

namespace Tree

/-! ## Bindings -/

/-- The handle that is bound to one kind of surface of a live window. -/
def binding? (tree : Tree) (id : WindowId) (kind : Surface.Kind) : Option Handle :=
  (tree.node? id).bind fun node => node.surfaces.get kind

variable {tree : Tree} {id target : WindowId} {kind : Surface.Kind} {node : Node} {change : Change}
  {hasViews : WindowId → Bool} {event : TreeEvent}

theorem binding?_eq_record? (tree : Tree) (id : WindowId) (kind : Surface.Kind) :
    tree.binding? id kind = (tree.record? id).bind fun record => record.surfaces.get kind := by
  unfold binding? record?
  cases tree.node? id <;> rfl

theorem binding?_of_node? (found : tree.node? id = some node) :
    tree.binding? id kind = node.surfaces.get kind := by
  simp [binding?, found]

theorem binding?_of_record? {record : Node} (found : tree.record? id = some record) :
    tree.binding? id kind = record.surfaces.get kind := by
  simp [binding?_eq_record?, found]

/-- What a fate leaves of a binding, by the surfaces that the record has afterwards. -/
theorem Fate.binding_eq {after : Option Node} (fate : Fate tree id event after)
    (keeps : event.keepsSurfaces = true) :
    (after.bind fun record => record.surfaces.get kind) = tree.binding? id kind := by
  cases fate with
  | kept => exact (binding?_eq_record? tree id kind).symm
  | came _ isNew => cases kind <;> simp [binding?, isNew, Surface.Slots.get]
  | edited found edits =>
      rw [binding?_of_record? found]
      cases edits with
      | placed | titled | iconed => rfl
      | restacked placement flag =>
          show ((Node.setTopmost _ flag).surfaces).get kind = _
          unfold Node.setTopmost
          split <;> rfl
      | demoted | promoted | bound | released => cases keeps
  | went => cases keeps

theorem binding?_of_keepsSurfaces (forest : tree.Forest)
    (accepted : tree.change hasViews event = .ok change) (keeps : event.keepsSurfaces = true)
    (id : WindowId) (kind : Surface.Kind) :
    change.tree.binding? id kind = tree.binding? id kind := by
  rw [binding?_eq_record?]
  exact (fate_of_change forest accepted id).binding_eq keeps

/-- A binding is lost by its release, with a subtree, or by a move between top level and child. -/
theorem Fate.unbound {after : Option Node} (fate : Fate tree id event after) {handle : Handle}
    (wasBound : tree.binding? id kind = some handle)
    (isGone : (after.bind fun record => record.surfaces.get kind) = none) :
    event = .surfaceDestroyed id kind ∨
      (∃ root, event = .destroy root ∧ (id = root ∨ root ∈ tree.ancestors id)) ∨
      ∃ parent scale record rebuilt, event = .reparent id parent scale ∧
        tree.record? id = some record ∧ after = some rebuilt ∧
        (record.isTopLevel = true ∧ rebuilt.kind = .child ∨
          record.kind = .child ∧ rebuilt.isTopLevel = true) := by
  cases fate with
  | kept =>
      rw [← binding?_eq_record?, wasBound] at isGone
      cases isGone
  | came _ isNew => simp [binding?, isNew] at wasBound
  | @edited event record after found edits =>
      rw [binding?_of_record? found] at wasBound
      have stays : ∀ same : Surface.Slots, same = record.surfaces → same.get kind ≠ none := by
        rintro same rfl
        simp [wasBound]
      cases edits with
      | demoted isTopLevel =>
          exact .inr (.inr ⟨_, _, record, _, rfl, found, rfl, .inl ⟨isTopLevel, rfl⟩⟩)
      | promoted isChild =>
          exact .inr (.inr ⟨_, _, record, _, rfl, found, rfl, .inr ⟨isChild, rfl⟩⟩)
      | placed | titled | iconed => exact absurd isGone (stays _ rfl)
      | restacked placement flag =>
          refine absurd isGone (stays _ ?_)
          unfold Node.setTopmost
          split <;> rfl
      | bound which handle =>
          by_cases same : kind = which
          · subst same
            simp at isGone
          · have former := Surface.Slots.get_bind_of_ne record.surfaces handle same
            simp [former, wasBound] at isGone
      | released which =>
          by_cases same : kind = which
          · exact .inl (same ▸ rfl)
          · have former := Surface.Slots.get_set_of_ne record.surfaces none same
            simp [Surface.Slots.release, former, wasBound] at isGone
  | went inSubtree => exact .inr (.inl ⟨_, rfl, inSubtree⟩)

/-! ## What events tell -/

/-- A window whose views are taken down tells about its bindings, and has none afterwards. -/
theorem told_releaseCalls (found : tree.node? node.id = some node) {after : Option Handle}
    (released : after = if id = node.id then none else tree.binding? id kind) :
    Told (tree.binding? id kind) (surfaceEntries id kind (releaseCalls node)) after := by
  rw [surfaceEntries_releaseCalls, released]
  by_cases isId : id = node.id
  · rw [if_pos isId, isId, binding?_of_node? found]
    cases bindingIs : node.surfaces.get kind with
    | none => simpa using .nil none
    | some handle => simpa using .released (.nil none)
  · simpa [isId, Ne.symm isId] using .nil (tree.binding? id kind)

theorem calls_destroyOne (tree : Tree) (id : WindowId) :
    (tree.destroyOne id).calls = ((tree.node? id).map releaseCalls).getD [] := by
  unfold destroyOne
  cases found : tree.node? id with
  | none => rfl
  | some node =>
      dsimp only
      cases node.kind <;> rfl

theorem told_destroyOne (stored : tree.Stored) (target id : WindowId) (kind : Surface.Kind) :
    Told (tree.binding? id kind) (surfaceEntries id kind (tree.destroyOne target).calls)
      ((tree.destroyOne target).tree.binding? id kind) := by
  have after : (tree.destroyOne target).tree.binding? id kind =
      if id = target then none else tree.binding? id kind := by
    rw [binding?_eq_record?, record?_destroyOne, binding?_eq_record?]
    split <;> rfl
  rw [calls_destroyOne, after]
  cases found : tree.node? target with
  | none =>
      have same : (if id = target then none else tree.binding? id kind) =
          tree.binding? id kind := by
        split
        · next isTarget => simp [binding?, isTarget, found]
        · rfl
      rw [same]
      exact .nil _
  | some node =>
      have own := stored target node found
      subst own
      exact told_releaseCalls found rfl

theorem told_destroy (forest : tree.Forest) (root id : WindowId) (kind : Surface.Kind) :
    Told (tree.binding? id kind) (surfaceEntries id kind (tree.destroy root).calls)
      ((tree.destroy root).tree.binding? id kind) := by
  refine destroy_induction forest (motive := fun change =>
    Told (tree.binding? id kind) (surfaceEntries id kind change.calls)
      (change.tree.binding? id kind)) root (.nil _) ?_
  intro change window changeForest _ _ told
  have one := told_destroyOne changeForest.stored window id kind
  rw [Change.followedBy, surfaceEntries_append]
  exact told.append one

theorem told_reparent (forest : tree.Forest) {parent : WindowId} {scale : Binary32}
    (reparented : tree.reparent hasViews target parent scale = .ok change)
    (id : WindowId) (kind : Surface.Kind) :
    Told (tree.binding? id kind) (surfaceEntries id kind change.calls)
      (change.tree.binding? id kind) := by
  obtain ⟨node, first, found, -, rfl, moves⟩ := reparent_eq_ok reparented
  have own : node.id = target := forest.stored target node found
  subst own
  show Told _ (surfaceEntries id kind first.calls)
    ((first.tree.rescale node.id scale).binding? id kind)
  rw [binding?_eq_record? (first.tree.rescale _ _), record?_rescale]
  -- Both ways between top level and child rebuild the views.
  have rebuilt : ∀ (after : Tree) (kindAfter : Node.Kind), after.record? id =
        (if id = node.id then (tree.record? id).map (·.rebuilt kindAfter) else tree.record? id) →
      Told (tree.binding? id kind) (surfaceEntries id kind (releaseCalls node))
        ((after.record? id).bind fun record => record.surfaces.get kind) := by
    intro after kindAfter records
    refine told_releaseCalls found ?_
    rw [records]
    split
    · cases tree.record? id <;> cases kind <;> rfl
    · exact (binding?_eq_record? tree id kind).symm
  rcases moves with rfl | ⟨-, promoted⟩ | ⟨-, -, demoted⟩ | ⟨-, -, -, moved⟩
  · rw [← binding?_eq_record?]
    exact .nil _
  · obtain ⟨views, -, rfl⟩ := promote_eq_ok promoted
    exact rebuilt _ _ (record?_promoted tree node.id id)
  · obtain ⟨views, -, rfl⟩ := demote_eq_ok demoted
    exact rebuilt _ _ (record?_demoted tree node.id parent id)
  · obtain ⟨above, here, -, -, rfl⟩ := move_eq_ok moved
    show Told _ [] (((tree.moved node.id parent).record? id).bind _)
    rw [record?_moved, ← binding?_eq_record?]
    exact .nil _

theorem calls_create {parent : WindowId} {scale : Binary32} {accelerated : Bool}
    {process : UInt32}
    (created : tree.create hasViews id parent scale accelerated process = .ok change) :
    change.calls = [] := by
  rcases create_eq_ok created with ⟨-, -, rfl⟩ | ⟨-, first, rfl, making⟩
  · rfl
  · have silent : first.calls = [] := by
      rcases making with topLevel | ⟨target, -, child⟩
      · obtain ⟨commands, -, rfl⟩ := createTopLevel_eq_ok topLevel
        rfl
      · obtain ⟨-, commands, -, rfl⟩ := createChild_eq_ok child
        rfl
    split
    · show first.calls ++ [] = []
      rw [silent, List.append_nil]
    · exact silent

theorem calls_position {placement : Placement}
    (positioned : tree.position hasViews id placement = .ok change) : change.calls = [] := by
  obtain ⟨node, -, ⟨-, rfl⟩ | ⟨-, topLevel⟩ | ⟨-, child⟩⟩ := position_eq_ok positioned
  · rfl
  · obtain ⟨stacked, whole, footprint, notices, -, -, -, rfl⟩ := positionTopLevel_eq_ok topLevel
    rfl
  · obtain ⟨stacked, commands, notices, -, -, -, rfl⟩ := positionChild_eq_ok child
    rfl

theorem calls_announcingIf (topLevel : Bool) (change : Change) :
    (announcingIf topLevel change).calls = change.calls := by
  cases topLevel <;> rfl

/-- A bound surface that became visible is told about again. -/
theorem told_again (found : tree.node? target = some node) {which : Surface.Kind} (visible : Bool) :
    Told (tree.binding? id kind)
      (surfaceEntries id kind
        (match node.surfaces.get which with
        | some handle =>
          if visible then [.surfaceChanged target (some handle) which.isClient] else []
        | none => []))
      (tree.binding? id kind) := by
  cases bindingIs : node.surfaces.get which with
  | none => exact .nil _
  | some handle =>
      cases visible with
      | false => exact .nil _
      | true =>
          simp only [if_true, surfaceEntries_surfaceChanged]
          split
          · next same =>
              obtain ⟨rfl, rfl⟩ := same
              rw [binding?_of_node? found, bindingIs]
              exact .bound handle (.nil _)
          · exact .nil _

theorem binding?_setSurfaces (found : tree.node? target = some node) (surfaces : Surface.Slots) :
    (tree.updateNode target fun node => { node with surfaces }).binding? id kind =
      if id = target then surfaces.get kind else tree.binding? id kind := by
  rw [binding?_eq_record?, record?_setSurfaces, binding?_eq_record?]
  split
  · next isTarget => simp [isTarget, record?_of_node? found]
  · rfl

/-- Surfaces that agree on a kind with the former ones leave its binding as it is. -/
theorem binding?_setSurfaces_of_agrees (found : tree.node? target = some node)
    {surfaces : Surface.Slots}
    (agrees : id = target → surfaces.get kind = node.surfaces.get kind) :
    (tree.updateNode target fun node => { node with surfaces }).binding? id kind =
      tree.binding? id kind := by
  rw [binding?_setSurfaces found]
  split
  · next isTarget => rw [agrees isTarget, isTarget, binding?_of_node? found]
  · rfl

theorem told_bind (found : tree.node? target = some node) (which : Surface.Kind)
    (handle : Handle) :
    Told (tree.binding? id kind)
      (surfaceEntries id kind [.surfaceChanged target (some handle) which.isClient])
      ((tree.updateNode target fun other =>
        { other with surfaces := (node.surfaces.bind which handle).1 }).binding? id kind) := by
  by_cases same : target = id ∧ which = kind
  · obtain ⟨rfl, rfl⟩ := same
    simpa [surfaceEntries_surfaceChanged, binding?_setSurfaces found] using
      .bound handle (.nil (some handle))
  · rw [surfaceEntries_surfaceChanged, if_neg same, binding?_setSurfaces_of_agrees found]
    · exact .nil _
    · exact fun isTarget => Surface.Slots.get_bind_of_ne _ _ fun isKind =>
        same ⟨isTarget.symm, isKind.symm⟩

theorem told_release (found : tree.node? target = some node) (which : Surface.Kind) :
    Told (tree.binding? id kind)
      (surfaceEntries id kind
        (if (node.surfaces.get which).isSome then [.surfaceChanged target none which.isClient]
          else []))
      ((tree.updateNode target fun other =>
        { other with surfaces := (node.surfaces.release which).1 }).binding? id kind) := by
  by_cases same : target = id ∧ which = kind
  · obtain ⟨rfl, rfl⟩ := same
    rw [binding?_setSurfaces found, if_pos rfl, binding?_of_node? found]
    cases node.surfaces.get which with
    | none => simpa [Surface.Slots.release] using .nil none
    | some handle =>
        simpa [Surface.Slots.release, surfaceEntries_surfaceChanged] using .released (.nil none)
  · rw [binding?_setSurfaces_of_agrees found]
    · split
      · rw [surfaceEntries_surfaceChanged, if_neg same]
        exact .nil _
      · exact .nil _
    · exact fun isTarget => Surface.Slots.get_set_of_ne _ _ fun isKind =>
        same ⟨isTarget.symm, isKind.symm⟩

/-- An event that binds and releases nothing tells at most again what is bound. -/
theorem told_of_keepsSurfaces (accepted : tree.change hasViews event = .ok change)
    (keeps : event.keepsSurfaces = true) (id : WindowId) (kind : Surface.Kind) :
    Told (tree.binding? id kind) (surfaceEntries id kind change.calls) (tree.binding? id kind) := by
  have silent : change.calls = [] →
      Told (tree.binding? id kind) (surfaceEntries id kind change.calls)
        (tree.binding? id kind) := by
    intro noCalls
    rw [noCalls]
    exact .nil _
  cases event with
  | createDesktop window =>
      obtain ⟨-, -, rfl⟩ := createDesktop_eq_ok accepted
      exact silent rfl
  | create => exact silent (calls_create accepted)
  | startAccelerated window =>
      rw [startAccelerated_eq_ok accepted] at silent ⊢
      exact silent rfl
  | position => exact silent (calls_position accepted)
  | focus window =>
      obtain ⟨node, -, focused⟩ := onLive_eq_ok accepted
      split at focused <;> cases focused <;> exact silent rfl
  | setText window text =>
      obtain ⟨node, -, changed⟩ := onLive_eq_ok accepted
      cases changed
      exact silent (calls_announcingIf _ _)
  | setIcon window icon =>
      obtain ⟨node, -, changed⟩ := onLive_eq_ok accepted
      cases changed
      exact silent (calls_announcingIf _ _)
  | viewVisibility window which visible =>
      obtain ⟨node, found, reported⟩ := onLive_eq_ok accepted
      cases reported
      exact told_again found visible
  | activityStarted =>
      cases accepted
      have noEntry : surfaceEntries id kind tree.activityStarted.calls = [] := by
        simp [surfaceEntries, activityStarted, List.filterMap_eq_nil_iff, Call.surfaceEntry?]
      rw [noEntry]
      exact .nil _
  | activityStopped =>
      cases accepted
      exact silent rfl
  | destroy | reparent | surfaceAvailable | surfaceDestroyed => cases keeps

/-- The entries of an accepted event lead from the binding before it to the one after it. -/
theorem told_of_change (forest : tree.Forest) (accepted : tree.change hasViews event = .ok change)
    (id : WindowId) (kind : Surface.Kind) :
    Told (tree.binding? id kind) (surfaceEntries id kind change.calls)
      (change.tree.binding? id kind) := by
  by_cases keeps : event.keepsSurfaces = true
  · rw [binding?_of_keepsSurfaces forest accepted keeps]
    exact told_of_keepsSurfaces accepted keeps id kind
  · cases event with
    | destroy root =>
        cases accepted
        exact told_destroy forest root id kind
    | reparent window parent scale => exact told_reparent forest accepted id kind
    | surfaceAvailable window which handle =>
        obtain ⟨node, parking, restoring, found, -, -, rfl⟩ := surfaceAvailable_eq_ok accepted
        exact told_bind found which handle
    | surfaceDestroyed window which =>
        obtain ⟨node, found, rfl⟩ := surfaceDestroyed_eq_ok accepted
        exact told_release found which
    | _ => exact absurd rfl keeps

end Tree

end WindowRelay
