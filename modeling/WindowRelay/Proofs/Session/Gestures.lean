import Mathlib.Data.List.Induction
import WindowRelay.Proofs.Input.Router
import WindowRelay.Proofs.Session.Runs
import WindowRelay.Proofs.Tree.Records

/-!
Contract: gestures and the windows on which they are made.

Owns:
- only the removal of a window takes windows away, and it drops the gesture of that window;
- exactly the removal of a window above one with a gesture leaves a gesture without its window.

A window with a gesture can be moved under another one. The removal of the other one takes it away
as well, but the router only hears of the window whose removal was asked for.
-/

namespace WindowRelay

namespace Session

variable {session last : Session} {task : Task} {tasks : List Task} {reaction : Reaction}
  {window root : WindowId}

theorem isLive_of_dispatch (forest : session.tree.Forest)
    (notDestroy : ∀ window, task ≠ .manager (.destroyWindow window))
    (dispatched : session.dispatch task = .ok reaction)
    (live : session.tree.isLive window = true) : reaction.session.tree.isLive window = true := by
  refine dispatch_preserves_onForest (motive := fun tree => tree.isLive window = true) forest ?_
    (fun _ _ kept => kept) live dispatched
  intro event member tree hasViews change kept stillLive accepted
  refine Tree.isLive_of_change kept accepted (fun root isDestroy => ?_) stillLive
  exact notDestroy root (Task.eq_destroyWindow_of_mem (isDestroy ▸ member))

theorem dispatch_destroyWindow
    (dispatched : session.dispatch (.manager (.destroyWindow root)) = .ok reaction) :
    reaction.session.router = session.router.forget root ∧
      reaction.session.tree = (session.tree.destroy root).tree := by
  cases dispatched
  exact ⟨rfl, rfl⟩

/-- A gesture after a task was there before, and not dropped by the task, or has just started on a
live window. -/
theorem hasGesture_of_dispatch (dispatched : session.dispatch task = .ok reaction)
    (active : reaction.session.router.hasGesture window = true) :
    (session.router.hasGesture window = true ∧ task ≠ .manager (.destroyWindow window)) ∨
      (session.tree.isLive window = true ∧
        ∃ sample, task = .host (.motion sample) ∧ sample.window = window) := by
  rcases router_of_dispatch dispatched with
    ⟨notDestroy, same⟩ | ⟨root, rfl, forgotten⟩ | ⟨sample, routed, rfl, moved, router⟩
  · exact .inl ⟨same ▸ active, notDestroy window⟩
  · rw [forgotten, Router.hasGesture_forget, Bool.and_eq_true, bne_iff_ne] at active
    exact .inl ⟨active.2, by simpa using Ne.symm active.1⟩
  · rw [router] at active
    rcases Router.hasGesture_motion moved active with before | ⟨⟨node, found, -⟩, isWindow⟩
    · exact .inl ⟨before, by simp⟩
    · exact .inr ⟨Tree.isLive_iff.mpr ⟨node, found⟩, sample, rfl, isWindow.symm⟩

/-! ## Gestures of live windows -/

/-- Every gesture is one on a live window. -/
def GesturesLive (session : Session) : Prop :=
  ∀ window, session.router.hasGesture window = true → session.tree.isLive window = true

/-- No removal asked for takes a window with a gesture away together with one above it. -/
def SparesGestures (session : Session) (task : Task) : Prop :=
  ∀ root, task = .manager (.destroyWindow root) →
    ∀ window, session.router.hasGesture window = true → session.tree.isBelow window root = false

/-- One task keeps every gesture on a live window exactly if it spares the gestures below it. -/
theorem gesturesLive_dispatch_iff (forest : session.tree.Forest) (before : session.GesturesLive)
    (dispatched : session.dispatch task = .ok reaction) :
    reaction.session.GesturesLive ↔ session.SparesGestures task := by
  by_cases isDestroy : ∃ root, task = .manager (.destroyWindow root)
  · obtain ⟨root, rfl⟩ := isDestroy
    obtain ⟨router, tree⟩ := dispatch_destroyWindow dispatched
    have after : reaction.session.GesturesLive ↔ ∀ window, window ≠ root →
        session.router.hasGesture window = true → session.tree.isBelow window root = false := by
      unfold GesturesLive
      rw [router, tree]
      refine forall_congr' fun window => ?_
      rw [Router.hasGesture_forget, Bool.and_eq_true, bne_iff_ne, Tree.isLive_destroy forest]
      constructor
      · exact fun spares notRoot active => (spares ⟨notRoot, active⟩).2.2
      · exact fun spares gesture => ⟨before window gesture.2, gesture.1, spares gesture.1 gesture.2⟩
    rw [after]
    constructor
    · rintro spares other isRoot window active
      cases isRoot
      by_cases isRoot : window = root
      · exact isRoot ▸ Tree.isBelow_self forest window
      · exact spares window isRoot active
    · exact fun spares window _ active => spares root rfl window active
  · have notDestroy : ∀ root, task ≠ .manager (.destroyWindow root) :=
      fun root isThis => isDestroy ⟨root, isThis⟩
    refine iff_of_true (fun window active => ?_) fun root isThis => absurd isThis (notDestroy root)
    have wasLive : session.tree.isLive window = true := by
      rcases hasGesture_of_dispatch dispatched active with ⟨wasActive, -⟩ | ⟨live, -⟩
      · exact before window wasActive
      · exact live
    exact isLive_of_dispatch forest notDestroy dispatched wasLive

theorem gesturesLive_fresh (config : Config) (prefixDirectory : Option PrefixDirectory) :
    (fresh config prefixDirectory).GesturesLive := by
  intro window active
  cases active

/-- If the removals in a run spare the gestures below them, every gesture stays one on a live
window. -/
theorem gesturesLive_of_removals_spare (forest : session.tree.Forest)
    (start : session.GesturesLive)
    (spares : ∀ earlier root later middle,
      tasks = earlier ++ .manager (.destroyWindow root) :: later →
      session.dispatchAll earlier = .ok middle →
      middle.SparesGestures (.manager (.destroyWindow root)))
    (earlier later : List Task) (middle : Session) (split : tasks = earlier ++ later)
    (reached : session.dispatchAll earlier = .ok middle) : middle.GesturesLive := by
  -- The induction is on the tasks so far, the last of them first.
  induction earlier using List.reverseRecOn generalizing later middle with
  | nil =>
      cases reached
      exact start
  | append_singleton rest task inductionHypothesis =>
      obtain ⟨before, reachedBefore, ranTask⟩ := dispatchAll_append.mp reached
      obtain ⟨reaction, dispatched, nothing⟩ := dispatchAll_cons.mp ranTask
      cases nothing
      have splitBefore : tasks = rest ++ task :: later := by simp [split]
      have alive : before.GesturesLive :=
        inductionHypothesis (task :: later) before splitBefore reachedBefore
      refine (gesturesLive_dispatch_iff (forest_of_dispatchAll forest reachedBefore) alive
        dispatched).mpr fun root isDestroy => ?_
      exact spares rest root later before (isDestroy ▸ splitBefore) reachedBefore root rfl

/-- A removal after which every gesture is one on a live window has spared those below it. -/
theorem removals_spare_of_gesturesLive (forest : session.tree.Forest)
    (ran : session.dispatchAll tasks = .ok last)
    (alive : ∀ earlier later middle, tasks = earlier ++ later →
      session.dispatchAll earlier = .ok middle → middle.GesturesLive)
    {earlier later : List Task} {middle : Session}
    (split : tasks = earlier ++ .manager (.destroyWindow root) :: later)
    (reached : session.dispatchAll earlier = .ok middle) :
    middle.SparesGestures (.manager (.destroyWindow root)) := by
  rw [split] at ran
  obtain ⟨before, reachedBefore, ranRest⟩ := dispatchAll_append.mp ran
  cases reached.symm.trans reachedBefore
  obtain ⟨reaction, dispatched, -⟩ := dispatchAll_cons.mp ranRest
  have reachedNext : session.dispatchAll (earlier ++ [.manager (.destroyWindow root)]) =
      .ok reaction.session :=
    dispatchAll_append.mpr ⟨middle, reached, dispatchAll_cons.mpr ⟨reaction, dispatched, rfl⟩⟩
  have aliveHere : middle.GesturesLive := alive earlier _ middle split reached
  have aliveNext : reaction.session.GesturesLive :=
    alive _ later reaction.session (by simp [split]) reachedNext
  exact (gesturesLive_dispatch_iff (forest_of_dispatchAll forest reached) aliveHere
    dispatched).mp aliveNext

/-- In a run of tasks every gesture stays one on a live window exactly if, whenever the removal of
a window is asked for, no window below it has a gesture. The window itself loses its gesture in any
case, and a gesture that was not there before is one on a live window. -/
theorem gestures_live_iff_removals_spare {config : Config}
    {prefixDirectory : Option PrefixDirectory}
    (ran : (fresh config prefixDirectory).dispatchAll tasks = .ok last) :
    ((∀ earlier later middle, tasks = earlier ++ later →
        (fresh config prefixDirectory).dispatchAll earlier = .ok middle →
        ∀ window, middle.router.hasGesture window = true → middle.tree.isLive window = true) ↔
      ∀ earlier root later middle, tasks = earlier ++ .manager (.destroyWindow root) :: later →
        (fresh config prefixDirectory).dispatchAll earlier = .ok middle →
        ∀ window, middle.router.hasGesture window = true →
          middle.tree.isBelow window root = false) ∧
    ∀ task reaction, last.dispatch task = .ok reaction →
      (∀ root, task = .manager (.destroyWindow root) →
        reaction.session.router.hasGesture root = false) ∧
      ∀ window, reaction.session.router.hasGesture window = true →
        last.router.hasGesture window = true ∨ reaction.session.tree.isLive window = true := by
  have forest := forest_fresh config prefixDirectory
  refine ⟨⟨fun alive => ?_, fun spares => ?_⟩, fun task reaction dispatched =>
    ⟨fun root isDestroy => ?_, fun window active => ?_⟩⟩
  · intro earlier root later middle split reached
    exact removals_spare_of_gesturesLive forest ran alive split reached root rfl
  · refine gesturesLive_of_removals_spare forest (gesturesLive_fresh config prefixDirectory) ?_
    intro earlier root later middle split reached other isRoot
    cases isRoot
    exact spares earlier root later middle split reached
  · subst isDestroy
    rw [(dispatch_destroyWindow dispatched).1, Router.hasGesture_forget]
    simp
  · rcases hasGesture_of_dispatch dispatched active with ⟨before, -⟩ | ⟨live, sample, rfl, -⟩
    · exact .inl before
    · obtain ⟨routed, -, tree, -⟩ := motion_eq_ok dispatched
      exact .inr (tree ▸ live)

/-- A scroll starts on a window, and another window is removed. -/
def scrollRun : List Task :=
  [.manager (.createWindow 48 false WindowId.absent Binary32.one 7),
    .manager (.createWindow 49 false WindowId.absent Binary32.one 7),
    .host (mouseMotion 48 .down 10 10),
    .manager (.destroyWindow 49)]

/-- Only the last task of the run asks for the removal of a window. -/
theorem removal_in_scrollRun {earlier later : List Task}
    (split : scrollRun = earlier ++ .manager (.destroyWindow root) :: later) :
    earlier = scrollRun.take 3 ∧ root = 49 := by
  rcases earlier with _ | ⟨first, _ | ⟨second, _ | ⟨third, _ | ⟨fourth, rest⟩⟩⟩⟩ <;>
    simp [scrollRun] at split
  obtain ⟨rfl, rfl, rfl, rfl, -⟩ := split
  exact ⟨rfl, rfl⟩

/-- The removal spares the gesture, so it is still one on a live window; the removal of that window
drops it. -/
theorem gestures_live_iff_removals_spare_on_scrollRun :
    ∃ last, (fresh {} none).dispatchAll scrollRun = .ok last ∧
      last.router.hasGesture 48 = true ∧ last.tree.isLive 48 = true ∧
      ∃ reaction, last.dispatch (.manager (.destroyWindow 48)) = .ok reaction ∧
        reaction.session.router.hasGesture 48 = false := by
  have ends : ((fresh {} none).dispatchAll scrollRun).map (fun last =>
      last.router.hasGesture 48) = .ok true := by
    decide +kernel
  have reaches : ((fresh {} none).dispatchAll (scrollRun.take 3)).map (fun middle =>
      (middle.router.gestures.keys, middle.tree.isBelow 48 49)) = .ok ([48], false) := by
    decide +kernel
  obtain ⟨last, ran, active⟩ := map_eq_ok.mp ends
  obtain ⟨spared, drops⟩ := gestures_live_iff_removals_spare ran
  -- The one gesture at that time is not on a window below the removed one.
  have alive := spared.mpr fun earlier root later middle split reached window gesture => by
    obtain ⟨rfl, rfl⟩ := removal_in_scrollRun split
    obtain ⟨before, isBefore, facts⟩ := map_eq_ok.mp reaches
    obtain rfl : middle = before := Except.ok.inj (reached.symm.trans isBefore)
    obtain ⟨keys, notBelow⟩ := Prod.mk.inj facts
    have inKeys : window ∈ middle.router.gestures.keys :=
      (Table.mem_keys_iff _ window).mpr (Option.isSome_iff_exists.mp gesture)
    rw [keys, List.mem_singleton] at inKeys
    rw [inKeys]
    exact notBelow
  exact ⟨last, ran, active, alive scrollRun [] last (List.append_nil _).symm ran 48 active, _, rfl,
    (drops _ _ rfl).1 48 rfl⟩

/-- A scroll starts on a window, the window moves under another one, the other one is removed, and
a window with the id of the first one is created. -/
def outlivingRun : List Task :=
  [.manager (.createWindow 48 false WindowId.absent Binary32.one 7),
    .manager (.createWindow 49 false WindowId.absent Binary32.one 7),
    .host (mouseMotion 48 .down 10 10),
    .manager (.setParent 48 49 Binary32.one 7),
    .manager (.destroyWindow 49),
    .manager (.createWindow 48 false WindowId.absent Binary32.one 7)]

/-- Before the last task the window is gone and its gesture is not; after it the new window has the
gesture of the old one. -/
theorem gesture_outlives_window :
    (∃ middle, (fresh {} none).dispatchAll outlivingRun.dropLast = .ok middle ∧
      middle.router.hasGesture 48 = true ∧ middle.tree.isLive 48 = false) ∧
    ∃ last, (fresh {} none).dispatchAll outlivingRun = .ok last ∧
      last.router.hasGesture 48 = true ∧ last.tree.isLive 48 = true := by
  have middleEnds : ((fresh {} none).dispatchAll outlivingRun.dropLast).map (fun middle =>
      (middle.router.hasGesture 48, middle.tree.isLive 48)) = .ok (true, false) := by
    decide +kernel
  have lastEnds : ((fresh {} none).dispatchAll outlivingRun).map (fun last =>
      (last.router.hasGesture 48, last.tree.isLive 48)) = .ok (true, true) := by
    decide +kernel
  obtain ⟨middle, reached, isMiddle⟩ := map_eq_ok.mp middleEnds
  obtain ⟨last, ran, isLast⟩ := map_eq_ok.mp lastEnds
  exact ⟨⟨middle, reached, Prod.mk.inj isMiddle⟩, last, ran, Prod.mk.inj isLast⟩

end Session

end WindowRelay
