import WindowRelay.Proofs.Outcome
import WindowRelay.Proofs.Scene.Containers
import WindowRelay.Proofs.Tree.Forest

/-!
Contract: events about one window that move nothing.

Owns:
- a quiet change: a tree of the same look, and commands that move no window;
- every successful event about an attribute, and the switch to accelerated rendering, is quiet.
-/

namespace WindowRelay

namespace Tree

variable {tree : Tree} {id : WindowId} {change : Change}

/-- No window goes anywhere, neither in the tree nor in the host. -/
structure Quiet (tree : Tree) (change : Change) : Prop where
  look : SameLook tree change.tree
  commands : ∀ command ∈ change.commands, command.isQuiet = true

theorem quiet_announceCommands (tree : Tree) :
    ∀ command ∈ tree.announceCommands, command.isQuiet = true := by
  intro command member
  unfold announceCommands at member
  split at member
  · cases member
  · rw [List.mem_singleton.mp member]
    rfl

theorem Quiet.announcing (quiet : Quiet tree change) : Quiet tree change.announcing where
  look := quiet.look.trans (sameLook_announce change.tree)
  commands command member := by
    rcases List.mem_append.mp member with before | announced
    · exact quiet.commands command before
    · exact quiet_announceCommands change.tree command announced

theorem Quiet.announcingIf (quiet : Quiet tree change) (topLevel : Bool) :
    Quiet tree (announcingIf topLevel change) := by
  unfold Tree.announcingIf
  split
  · exact quiet.announcing
  · exact quiet

theorem onLive_eq_ok {onNode : Node → Except Failure Change}
    (accepted : tree.onLive id onNode = .ok change) :
    ∃ node, tree.node? id = some node ∧ onNode node = .ok change := by
  unfold onLive at accepted
  cases found : tree.node? id with
  | none => simp [found] at accepted
  | some node => exact ⟨node, rfl, by simpa [found] using accepted⟩

theorem quiet_focus (accepted : tree.focus id = .ok change) : Quiet tree change := by
  obtain ⟨node, -, focused⟩ := onLive_eq_ok accepted
  split at focused
  · cases focused
    exact Quiet.announcing ⟨SameLook.refl tree, by simp⟩
  · cases focused
    exact ⟨SameLook.refl tree, by simp⟩

theorem quiet_setText {text : String} (accepted : tree.setText id text = .ok change) :
    Quiet tree change := by
  obtain ⟨node, -, changed⟩ := onLive_eq_ok accepted
  cases changed
  refine Quiet.announcingIf ⟨?_, by simp⟩ node.isTopLevel
  exact sameLook_updateNode tree id (fun _ => rfl) fun _ => rfl

theorem quiet_setIcon {icon : Option Icon} (accepted : tree.setIcon id icon = .ok change) :
    Quiet tree change := by
  obtain ⟨node, -, changed⟩ := onLive_eq_ok accepted
  cases changed
  refine Quiet.announcingIf ⟨?_, by simp⟩ node.isTopLevel
  exact sameLook_updateNode tree id (fun _ => rfl) fun _ => rfl

/-- A hidden top-level window whose backing comes is parked; nothing else is. -/
theorem parkingCommands_eq_ok {node : Node} {kind : Surface.Kind} {commands : List Scene.Command}
    (computed : parkingCommands node kind = .ok commands) :
    ((kind = .whole && node.isTopLevel && !node.visible && node.surfaces.whole.isNone) = true ∧
      ∃ place, Layout.offscreen node.visibleRect false = .ok place ∧
        commands = [.layout node.id .whole place]) ∨
    ((kind = .whole && node.isTopLevel && !node.visible && node.surfaces.whole.isNone) = false ∧
      commands = []) := by
  unfold parkingCommands at computed
  split at computed
  · next parks =>
      obtain ⟨place, isPlace, rest⟩ := bind_eq_ok.mp computed
      exact .inl ⟨parks, place, isPlace, (pure_eq_ok.mp rest).symm⟩
  · next stays => exact .inr ⟨Bool.not_eq_true _ ▸ stays, (pure_eq_ok.mp computed).symm⟩

/-- A client container whose backing is another one gets its real layout; no other does. -/
theorem restoringCommands_eq_ok {node : Node} {kind : Surface.Kind} {outcome : Surface.Outcome}
    {commands : List Scene.Command}
    (computed : restoringCommands node kind outcome = .ok commands) :
    ((outcome = .fresh && kind = .client) = true ∧
      ∃ client, node.clientLayout >>= Layout.padded = .ok client ∧
        commands = [.layout node.id .client client]) ∨
    ((outcome = .fresh && kind = .client) = false ∧ commands = []) := by
  unfold restoringCommands at computed
  split at computed
  · next restores =>
      obtain ⟨area, isArea, rest⟩ := bind_eq_ok.mp computed
      obtain ⟨client, isClient, rest⟩ := bind_eq_ok.mp rest
      exact .inl ⟨restores, client, bind_eq_ok.mpr ⟨area, isArea, isClient⟩,
        (pure_eq_ok.mp rest).symm⟩
  · next stays => exact .inr ⟨Bool.not_eq_true _ ▸ stays, (pure_eq_ok.mp computed).symm⟩

/-- A backing that comes leads to layouts only. -/
theorem layouts_of_arrival {node : Node} {kind : Surface.Kind} {outcome : Surface.Outcome}
    {parking restoring : List Scene.Command} (parked : parkingCommands node kind = .ok parking)
    (restored : restoringCommands node kind outcome = .ok restoring) :
    ∀ command ∈ parking ++ restoring, ∃ which rect, command = .layout node.id which rect := by
  intro command member
  rcases List.mem_append.mp member with isParking | isRestoring
  · rcases parkingCommands_eq_ok parked with ⟨-, place, -, rfl⟩ | ⟨-, rfl⟩
    · exact ⟨_, _, List.mem_singleton.mp isParking⟩
    · cases isParking
  · rcases restoringCommands_eq_ok restored with ⟨-, client, -, rfl⟩ | ⟨-, rfl⟩
    · exact ⟨_, _, List.mem_singleton.mp isRestoring⟩
    · cases isRestoring

theorem quiet_surfaceAvailable {kind : Surface.Kind} {handle : Surface.Handle}
    (accepted : tree.surfaceAvailable id kind handle = .ok change) : Quiet tree change := by
  obtain ⟨node, -, bound⟩ := onLive_eq_ok accepted
  obtain ⟨parking, parked, rest⟩ := bind_eq_ok.mp bound
  obtain ⟨restoring, restored, rest⟩ := bind_eq_ok.mp rest
  cases rest
  refine ⟨sameLook_updateNode tree id (fun _ => rfl) fun _ => rfl, fun command member => ?_⟩
  obtain ⟨which, rect, rfl⟩ := layouts_of_arrival (liftOverflow_eq_ok.mp parked)
    (liftOverflow_eq_ok.mp restored) command member
  rfl

theorem quiet_surfaceDestroyed {kind : Surface.Kind}
    (accepted : tree.surfaceDestroyed id kind = .ok change) : Quiet tree change := by
  obtain ⟨node, -, released⟩ := onLive_eq_ok accepted
  cases released
  exact ⟨sameLook_updateNode tree id (fun _ => rfl) fun _ => rfl, by simp⟩

theorem quiet_viewVisibility {kind : Surface.Kind} {visible : Bool}
    (accepted : tree.viewVisibility id kind visible = .ok change) : Quiet tree change := by
  obtain ⟨node, -, reported⟩ := onLive_eq_ok accepted
  cases reported
  exact ⟨SameLook.refl tree, by simp⟩

theorem quiet_activityStarted (tree : Tree) : Quiet tree tree.activityStarted where
  look := SameLook.refl tree
  commands command member := by
    obtain ⟨window, -, rfl⟩ := List.mem_map.mp member
    rfl

theorem quiet_activityStopped (tree : Tree) : Quiet tree tree.activityStopped where
  look := SameLook.refl tree
  commands command member := by
    obtain ⟨window, -, rfl⟩ := List.mem_map.mp member
    rfl

theorem quiet_accelerate (tree : Tree) (id : WindowId) : Quiet tree (tree.accelerate id) where
  look := sameLook_updateNode tree id (fun _ => rfl) fun _ => rfl
  commands := by simp [accelerate, clientContentCommands]

theorem quiet_startAccelerated (accepted : tree.startAccelerated id = .ok change) :
    Quiet tree change := by
  unfold startAccelerated at accepted
  split at accepted
  · cases accepted
    exact quiet_accelerate tree id
  · cases accepted

end Tree

end WindowRelay
