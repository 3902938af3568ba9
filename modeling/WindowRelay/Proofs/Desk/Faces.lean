import Mathlib.Data.List.TakeWhile
import WindowRelay.Proofs.Desk.Views
import WindowRelay.Proofs.Scene.Faces
import WindowRelay.Proofs.Tree.Commands
import WindowRelay.Proofs.Tree.Portraits

/-!
Contract: the layouts and contents that the commands of an event give to one window.

Owns:
- the windows that each group of commands names;
- freshly built views: what their layouts and contents are, in terms of the window;
- views that are set up for a top-level window, for a child, and for a window and those above it.

Attaching, detaching, stacking and focusing name no window, so they touch no layout and no content.
-/

namespace WindowRelay

namespace Tree

open Scene

variable {tree : Tree} {hosted : WindowId → Bool} {id other : WindowId} {node : Node}
  {commands : List Scene.Command}

/-! ## The windows that commands name -/

section Subjects

variable (tree : Tree) (id : WindowId)

@[simp] theorem subjects_attachCommands : subjects (tree.attachCommands id) = [] :=
  subjects_eq_nil_of_altered (altered_attachCommands tree id)

@[simp] theorem subjects_detachCommands : subjects (tree.detachCommands id) = [] :=
  subjects_eq_nil_of_altered (altered_detachCommands tree id)

@[simp] theorem subjects_reattachCommands : subjects (tree.reattachCommands id) = [] :=
  subjects_eq_nil_of_altered (altered_reattachCommands tree id)

@[simp] theorem subjects_announceCommands : subjects tree.announceCommands = [] :=
  subjects_eq_nil_of_altered (altered_announceCommands tree)

@[simp] theorem subjects_focusCommands (before after : Bool) :
    subjects (focusCommands id before after) = [] := by
  unfold focusCommands
  split <;> rfl

@[simp] theorem subjects_childViewCommands (parent : WindowId) (before after reorders : Bool) :
    subjects (tree.childViewCommands parent id before after reorders) = [] :=
  subjects_eq_nil_of_altered (altered_childViewCommands tree id parent before after reorders)

theorem notMem_subjects_clientContent (different : other ≠ id) :
    other ∉ subjects (clientContentCommands id) := by
  simp [clientContentCommands, Command.subject?, different]

theorem notMem_subjects_rebuilt (different : other ≠ id) :
    other ∉ subjects (tree.rebuiltCommands id) := by
  have accelerated : other ∉ subjects (tree.acceleratedCommands id) := by
    unfold acceleratedCommands
    split
    · exact notMem_subjects_clientContent id different
    · simp
  have aligned : subjects [tree.alignDesktopCommand] = [] := rfl
  simp [rebuiltCommands, accelerated, aligned]

end Subjects

theorem notMem_subjects_topLevelViews (computed : topLevelViews node = .ok commands)
    (different : other ≠ node.id) : other ∉ subjects commands := by
  obtain ⟨whole, client, -, -, rfl⟩ := topLevelViews_eq_ok computed
  simp [Command.subject?, different]

theorem subjects_childLayouts (node : Node) (client whole : Rect) :
    ∀ subject ∈ subjects (childLayouts node client whole), subject = node.id := by
  unfold childLayouts
  split <;> simp [Command.subject?]

theorem subjects_childViews (computed : tree.childViews node = .ok commands) :
    ∀ subject ∈ subjects commands, subject = node.id := by
  obtain ⟨client, whole, -, -, rfl⟩ := childViews_eq_ok computed
  intro subject member
  have attaching : subjects (if (node.parent.isSome && node.visible) = true then
      tree.attachCommands node.id else []) = [] := by
    split <;> simp
  rcases List.mem_cons.mp member with isOwn | later
  · exact isOwn
  · have named : subject ∈ subjects (childLayouts node client whole ++ _) := later
    rw [subjects_append, attaching, List.append_nil] at named
    exact subjects_childLayouts node client whole subject named

/-- Setting up views names the windows that get views. -/
theorem subjects_viewsOfAll (stored : tree.Stored) {windows : List WindowId}
    (computed : tree.viewsOfAll windows = .ok commands) : subjects commands ⊆ windows := by
  induction windows generalizing commands with
  | nil =>
      cases computed
      exact List.nil_subset _
  | cons window rest inductionHypothesis =>
      obtain ⟨here, later, ownViews, laterViews, rfl⟩ := viewsOfAll_cons.mp computed
      intro subject member
      rw [subjects_append] at member
      rcases List.mem_append.mp member with inHere | inLater
      · unfold viewsOf at ownViews
        split at ownViews
        · next node found =>
            rw [subjects_childViews ownViews subject inHere, stored window node found]
            exact List.mem_cons_self
        · cases ownViews
          cases inHere
      · exact List.mem_cons_of_mem window (inductionHypothesis laterViews inLater)

theorem mem_missingViews (member : other ∈ tree.missingViews hosted id) :
    hosted other = false ∧ other ∈ id :: tree.ancestors id := by
  have taken := List.mem_reverse.mp member
  exact ⟨by simpa using List.mem_takeWhile_imp taken, (List.takeWhile_sublist _).subset taken⟩

/-- A window that has views keeps its layouts and contents while others get theirs. -/
theorem faceAfter_ensureViews_of_hosted (stored : tree.Stored) (isHosted : hosted other = true)
    (computed : tree.ensureViews hosted id = .ok commands) (face : Option View) :
    faceAfter other face commands = face := by
  refine faceAfter_of_notMem (fun member => ?_) face
  have notHosted := (mem_missingViews (subjects_viewsOfAll stored computed member)).1
  rw [isHosted] at notHosted
  cases notHosted

end Tree

/-! ## Freshly built views -/

/-- A place for the whole container of a window. A child without a parent is attached to nothing,
so its container may be anywhere. -/
structure Node.Places (node : Node) (whole : Rect) : Prop where
  topLevel : node.isTopLevel = true → node.wholePlace = .ok whole
  child : node.kind = .child → node.parent.isSome = true →
    Layout.padded node.visibleRect = .ok whole

/-- The layouts and contents of views that have just been built for a window. -/
structure Node.Builds (node : Node) (face : View) : Prop where
  wholeContent : face.wholeContent = node.isTopLevel
  clientContent : face.clientContent = node.accelerated
  whole : node.Places face.wholeLayout
  client : if node.accelerated then face.clientLayout = Layout.kickoff
    else node.clientLayout >>= Layout.padded = .ok face.clientLayout

namespace Node

variable {node : Node} {face : View}

theorem Places.portrait {whole : Rect} (places : node.Places whole) :
    node.portrait.Places whole where
  topLevel isTopLevel := by
    rw [wholePlace_portrait]
    exact places.topLevel (node.isTopLevel_portrait ▸ isTopLevel)
  child isChild hasParent := places.child (node.portrait_kind_eq_child.mp isChild) hasParent

theorem Builds.portrait (builds : node.Builds face) : node.portrait.Builds face where
  wholeContent := builds.wholeContent.trans node.isTopLevel_portrait.symm
  clientContent := builds.clientContent
  whole := builds.whole.portrait
  client := builds.client

/-- Accelerated rendering adds the client content and starts over with its layout. -/
theorem Builds.accelerate (builds : node.Builds face) :
    Builds { node with accelerated := true }
      { face with clientContent := true, clientLayout := Layout.kickoff } where
  wholeContent := builds.wholeContent
  clientContent := rfl
  whole := ⟨builds.whole.topLevel, builds.whole.child⟩
  client := by simp

end Node

namespace Tree

open Scene

variable {tree : Tree} {hosted : WindowId → Bool} {id other : WindowId} {node : Node}
  {face : View} {commands : List Scene.Command}

theorem faceAfter_clientContent (id : WindowId) (face : View) :
    faceAfter id (some face) (clientContentCommands id) =
      some { face with clientContent := true, clientLayout := Layout.kickoff } := by
  simp [clientContentCommands, Command.onFace, View.addContent, View.setLayout]

/-- The client content of an accelerated window comes when its views have been built. -/
theorem exists_faceAfter_rebuilt (found : tree.portrait? id = some node)
    (builds : Node.Builds { node with accelerated := false } face) :
    ∃ built, faceAfter id (some face) (tree.rebuiltCommands id) = some built ∧
      node.Builds built := by
  have aligned : subjects [tree.alignDesktopCommand] = [] := rfl
  have rendered : tree.holds Node.accelerated id = node.accelerated := by
    obtain ⟨whole, wholeFound, rfl⟩ := Option.map_eq_some_iff.mp found
    simp [holds, wholeFound, Node.portrait]
  rw [rebuiltCommands, faceAfter_append, faceAfter_append, faceAfter_of_mute aligned,
    faceAfter_of_mute (subjects_reattachCommands tree id), acceleratedCommands, rendered]
  cases isAccelerated : node.accelerated with
  | true =>
      have accelerated := builds.accelerate
      refine ⟨_, faceAfter_clientContent id face, ?_⟩
      rwa [show ({ node with accelerated := true } : Node) = node by rw [← isAccelerated]]
        at accelerated
  | false =>
      refine ⟨face, rfl, ?_⟩
      rwa [show ({ node with accelerated := false } : Node) = node by rw [← isAccelerated]]
        at builds

theorem exists_faceAfter_topLevelViews (isTopLevel : node.isTopLevel = true)
    (computed : topLevelViews node = .ok commands) :
    ∃ face, faceAfter node.id none commands = some face ∧
      Node.Builds { node with accelerated := false } face := by
  obtain ⟨whole, client, isWhole, isClient, rfl⟩ := topLevelViews_eq_ok computed
  have notChild : node.kind ≠ .child := fun isChild => by
    simp [Node.isTopLevel, isChild] at isTopLevel
  refine ⟨{ wholeLayout := whole, clientLayout := client, wholeContent := true }, ?_,
    ⟨isTopLevel.symm, rfl, ⟨fun _ => isWhole, fun isChild => absurd isChild notChild⟩, isClient⟩⟩
  simp [Command.onFace, View.addContent, View.setLayout]

theorem exists_faceAfter_childViews (isChild : node.kind = .child)
    (computed : tree.childViews node = .ok commands) :
    ∃ face, faceAfter node.id none commands = some face ∧
      Node.Builds { node with accelerated := false } face := by
  obtain ⟨client, whole, isClient, isWhole, rfl⟩ := childViews_eq_ok computed
  have notTopLevel := Node.isTopLevel_eq_false_of_child isChild
  have attaching : subjects (if (node.parent.isSome && node.visible) = true then
      tree.attachCommands node.id else []) = [] := by
    split <;> simp
  refine ⟨{ wholeLayout := if node.parent.isSome then whole else Rect.zero
            clientLayout := client }, ?_,
    ⟨notTopLevel.symm, rfl, ⟨fun isTopLevel => ?_, fun _ hasParent => ?_⟩, isClient⟩⟩
  · rw [faceAfter_cons, faceAfter_append, faceAfter_of_mute attaching, childLayouts]
    cases hasParent : node.parent.isSome <;>
      simp [Command.onFace, View.setLayout]
  · exact absurd (isTopLevel.symm.trans notTopLevel) (by simp)
  · have parentIs : node.parent.isSome = true := hasParent
    simpa [parentIs] using isWhole parentIs

/-- A child without views gets them after the windows above it got theirs. -/
theorem exists_faceAfter_ensureViews (forest : tree.Forest) (found : tree.node? id = some node)
    (isChild : node.kind = .child) (notHosted : hosted id = false)
    (computed : tree.ensureViews hosted id = .ok commands) :
    ∃ face, faceAfter id none commands = some face ∧
      Node.Builds { node with accelerated := false } face := by
  have own : node.id = id := forest.stored id node found
  unfold ensureViews at computed
  cases link : tree.parent? id with
  | none =>
      rw [missingViews_of_root forest notHosted link] at computed
      have views := viewsOfAll_singleton found computed
      exact own ▸ exists_faceAfter_childViews isChild views
  | some parent =>
      rw [missingViews_of_parent forest notHosted link] at computed
      obtain ⟨before, after, beforeViews, ownViews, rfl⟩ := viewsOfAll_append computed
      have distinct := (Ascent.step link (forest.ascent_ancestors parent)).nodup
      have notAbove : id ∉ subjects before := fun member =>
        (List.nodup_cons.mp distinct).1
          (mem_missingViews (subjects_viewsOfAll forest.stored beforeViews member)).2
      have views := viewsOfAll_singleton found ownViews
      rw [faceAfter_append, faceAfter_of_notMem notAbove]
      exact own ▸ exists_faceAfter_childViews isChild views

end Tree

end WindowRelay
