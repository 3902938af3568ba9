import Mathlib.Data.List.Basic
import WindowRelay.Proofs.Input.Router

/-!
Contract: runs of a router over motions on many windows.

Owns:
- the requests that reach a router, and the replies to the motions among them;
- a motion looks at the gesture on its own window, and leaves the gestures on all other windows;
- so a run, as far as one window is concerned, is the run of the requests for that window.

The tree and the answer of the window manager come with each motion, since both may change from one
to the next.
-/

namespace WindowRelay

namespace Router

/-- What a router is asked to do. -/
inductive Request where
  | motion (tree : Tree) (sample : MotionSample) (handled : Bool)
  | forget (window : WindowId)

/-- The window that a request names. -/
def Request.window : Request → WindowId
  | .motion _ sample _ => sample.window
  | .forget window => window

/-- A motion, the calls that it caused, and whether it was consumed. -/
structure Reply where
  tree : Tree
  sample : MotionSample
  calls : List Call
  handled : Bool
deriving DecidableEq

/-- The router after some requests, and the replies to the motions among them. -/
def serve (router : Router) : List Request → Except Interruption (Router × List Reply)
  | [] => .ok (router, [])
  | .forget window :: rest => (router.forget window).serve rest
  | .motion tree sample handled :: rest => do
    let routed ← router.motion tree sample handled
    let (last, later) ← (routed.router.serve rest).mapError (·.behind routed.calls)
    pure (last, ⟨tree, sample, routed.calls, routed.handled⟩ :: later)

variable {router first second last : Router} {tree : Tree} {sample : MotionSample}
  {handled : Bool} {routed : Routed} {window : WindowId} {requests : List Request}
  {replies : List Reply}

theorem serve_motion_cons {rest : List Request} :
    router.serve (.motion tree sample handled :: rest) = .ok (last, replies) ↔
      ∃ routed later, router.motion tree sample handled = .ok routed ∧
        routed.router.serve rest = .ok (last, later) ∧
        replies = ⟨tree, sample, routed.calls, routed.handled⟩ :: later := by
  rw [serve]
  constructor
  · intro served
    obtain ⟨routed, moved, remaining⟩ := bind_eq_ok.mp served
    obtain ⟨⟨final, later⟩, servedRest, finished⟩ := bind_eq_ok.mp remaining
    cases finished
    exact ⟨routed, later, moved, mapError_eq_ok.mp servedRest, rfl⟩
  · rintro ⟨routed, later, moved, servedRest, rfl⟩
    exact bind_eq_ok.mpr ⟨routed, moved,
      bind_eq_ok.mpr ⟨(last, later), mapError_eq_ok.mpr servedRest, rfl⟩⟩

/-- What every motion that is not interrupted says holds of every reply. -/
theorem forall_reply_of_serve {holds : Reply → Prop}
    (motion : ∀ {router tree sample handled routed}, Router.motion router tree sample handled =
      .ok routed → holds ⟨tree, sample, routed.calls, routed.handled⟩)
    (served : router.serve requests = .ok (last, replies)) : ∀ reply ∈ replies, holds reply := by
  induction requests generalizing router replies with
  | nil =>
      cases served
      exact nofun
  | cons request rest inductionHypothesis =>
      cases request with
      | forget other => exact inductionHypothesis served
      | motion tree sample handled =>
          obtain ⟨routed, later, moved, servedRest, rfl⟩ := serve_motion_cons.mp served
          exact List.forall_mem_cons.mpr ⟨motion moved, inductionHypothesis servedRest⟩

/-! ## One motion -/

/-- Two routers that cannot be told apart by requests for one window. -/
structure AgreeOn (window : WindowId) (first second : Router) : Prop where
  gesture : first.gestures.get? window = second.gestures.get? window
  wheelStep : first.wheelStep = second.wheelStep
  horizontalFlag : first.horizontalFlag = second.horizontalFlag

theorem AgreeOn.refl (window : WindowId) (router : Router) : AgreeOn window router router :=
  ⟨rfl, rfl, rfl⟩

theorem AgreeOn.symm (agree : AgreeOn window first second) : AgreeOn window second first :=
  ⟨agree.gesture.symm, agree.wheelStep.symm, agree.horizontalFlag.symm⟩

theorem AgreeOn.trans {third : Router} (start : AgreeOn window first second)
    (finish : AgreeOn window second third) : AgreeOn window first third :=
  ⟨start.gesture.trans finish.gesture, start.wheelStep.trans finish.wheelStep,
    start.horizontalFlag.trans finish.horizontalFlag⟩

theorem AgreeOn.forget (agree : AgreeOn window first second) (other : WindowId) :
    AgreeOn window (first.forget other) (second.forget other) where
  gesture := by
    unfold Router.forget
    rw [Table.get?_erase, Table.get?_erase, agree.gesture]
  wheelStep := agree.wheelStep
  horizontalFlag := agree.horizontalFlag

theorem AgreeOn.insert (agree : AgreeOn window first second) (other : WindowId)
    (gesture : Gesture) :
    AgreeOn window { first with gestures := first.gestures.insert other gesture }
      { second with gestures := second.gestures.insert other gesture } where
  gesture := by
    rw [Table.get?_insert, Table.get?_insert, agree.gesture]
  wheelStep := agree.wheelStep
  horizontalFlag := agree.horizontalFlag

theorem agreeOn_forget_of_ne (router : Router) {other : WindowId} (different : window ≠ other) :
    AgreeOn window router (router.forget other) where
  gesture := by
    unfold Router.forget
    rw [Table.get?_erase, if_neg different]
  wheelStep := rfl
  horizontalFlag := rfl

/-- A motion leaves the gestures on all other windows as they are. -/
theorem agreeOn_motion_of_ne (moved : router.motion tree sample handled = .ok routed)
    (different : window ≠ sample.window) : AgreeOn window router routed.router := by
  have inserted : ∀ gesture, AgreeOn window router
      { router with gestures := router.gestures.insert sample.window gesture } := fun gesture => by
    refine ⟨?_, rfl, rfl⟩
    rw [Table.get?_insert, if_neg different]
  have handles := handles_motion moved
  generalize routed.router = after at handles ⊢
  cases handles with
  | keeps => exact .refl window router
  | begins | moves => exact inserted _
  | ends => exact agreeOn_forget_of_ne router different

/-- Two outcomes that cannot be told apart by anyone who looks at one window. -/
inductive Alike (window : WindowId) : Except Interruption Routed → Except Interruption Routed → Prop
  | ok {first second : Routed} (routers : AgreeOn window first.router second.router)
      (calls : first.calls = second.calls) (handled : first.handled = second.handled) :
      Alike window (.ok first) (.ok second)
  | error (interruption : Interruption) : Alike window (.error interruption) (.error interruption)

theorem alike_bind {α : Type} {outcome : Except Interruption α}
    {next other : α → Except Interruption Routed}
    (alike : ∀ value, Alike window (next value) (other value)) :
    Alike window (outcome >>= next) (outcome >>= other) := by
  cases outcome with
  | ok value => exact alike value
  | error interruption => exact .error interruption

section Motion

variable (agree : AgreeOn sample.window first second)

include agree

theorem alike_plain (x y : Coordinate) (handled : Bool) :
    Alike sample.window (.ok (first.plain sample x y handled))
      (.ok (second.plain sample x y handled)) :=
  .ok agree rfl rfl

theorem scrollCalls_congr (gesture : Gesture) (buttons : UInt32)
    (amounts : Coordinate × Coordinate) :
    first.scrollCalls gesture sample.window buttons amounts =
      second.scrollCalls gesture sample.window buttons amounts := by
  unfold scrollCalls
  rw [agree.horizontalFlag]

theorem alike_endGesture (gesture : Gesture) (amounts : Coordinate × Coordinate) (handled : Bool) :
    Alike sample.window
      (.ok (first.endGesture gesture sample.window sample.buttons amounts handled))
      (.ok (second.endGesture gesture sample.window sample.buttons amounts handled)) := by
  refine .ok (agree.forget sample.window) ?_ rfl
  unfold endGesture
  rw [scrollCalls_congr agree]

theorem wheelCalls_congr (x y : Coordinate) :
    first.wheelCalls sample x y = second.wheelCalls sample x y := by
  unfold wheelCalls verticalWheelCalls horizontalWheelCalls
  rw [agree.wheelStep, agree.horizontalFlag]

theorem alike_touch (action : Option MotionAction) (x y : Coordinate) (handled : Bool) :
    Alike sample.window (first.touch sample action x y handled)
      (second.touch sample action x y handled) := by
  unfold touch
  dsimp only
  rw [agree.gesture]
  split
  · exact .ok (agree.insert _ _) rfl rfl
  · split
    · exact alike_plain agree x y handled
    · next gesture _ =>
        split
        · exact alike_plain agree x y handled
        · split
          · refine alike_bind fun amounts => .ok (agree.insert _ _) ?_ rfl
            exact scrollCalls_congr agree gesture sample.buttons amounts
          · exact alike_endGesture agree gesture (0, 0) handled
          · exact alike_bind fun amounts => alike_endGesture agree gesture amounts handled
          · exact alike_plain agree x y handled

/-- A motion looks at no other gesture than the one on its window. -/
theorem alike_motion (tree : Tree) (handled : Bool) :
    Alike sample.window (first.motion tree sample handled)
      (second.motion tree sample handled) := by
  unfold motion
  split
  · exact .ok agree rfl rfl
  · split
    · exact .ok agree rfl rfl
    · unfold motionOn
      dsimp only
      rw [wheelCalls_congr agree]
      split
      · exact .ok agree rfl rfl
      · split
        · exact alike_bind fun calls => .ok agree rfl rfl
        · split
          · split
            · exact alike_plain agree _ _ handled
            · exact .ok agree rfl rfl
          · exact alike_touch agree _ _ _ handled

/-- A motion that succeeds on one router succeeds on the other, with the same reply. -/
theorem exists_motion_of_agreeOn (moved : first.motion tree sample handled = .ok routed) :
    ∃ other, second.motion tree sample handled = .ok other ∧
      AgreeOn sample.window routed.router other.router ∧
      routed.calls = other.calls ∧ routed.handled = other.handled := by
  have alike := alike_motion agree tree handled
  rw [moved] at alike
  generalize second.motion tree sample handled = outcome at alike
  cases alike with
  | ok routers calls handled => exact ⟨_, rfl, routers, calls, handled⟩

end Motion

/-! ## Runs -/

section Runs

variable {request : Request} {rest : List Request}

/-- A request for another window changes nothing for this one. -/
theorem serve_cons_of_ne (different : request.window ≠ window)
    (served : router.serve (request :: rest) = .ok (last, replies)) :
    ∃ next later, AgreeOn window router next ∧ next.serve rest = .ok (last, later) ∧
      replies.filter (·.sample.window == window) = later.filter (·.sample.window == window) := by
  cases request with
  | forget other => exact ⟨_, replies, agreeOn_forget_of_ne router (Ne.symm different), served, rfl⟩
  | motion tree sample handled =>
      obtain ⟨routed, later, moved, servedRest, rfl⟩ := serve_motion_cons.mp served
      refine ⟨routed.router, later, agreeOn_motion_of_ne moved (Ne.symm different), servedRest, ?_⟩
      exact List.filter_cons_of_neg (by simpa [Request.window] using different)

/-- The requests for a window give the same replies if all others are left out. -/
theorem serve_filter (agree : AgreeOn window first second)
    (served : first.serve requests = .ok (last, replies)) :
    ∃ alone, second.serve (requests.filter (·.window == window)) =
        .ok (alone, replies.filter (·.sample.window == window)) ∧
      AgreeOn window last alone := by
  induction requests generalizing first second replies with
  | nil =>
      cases served
      exact ⟨second, rfl, agree⟩
  | cons request rest inductionHypothesis =>
      by_cases named : request.window = window
      · rw [List.filter_cons_of_pos (by simpa using named)]
        cases request with
        | forget other => exact inductionHypothesis (agree.forget other) served
        | motion tree sample handled =>
            obtain rfl : sample.window = window := named
            obtain ⟨routed, later, moved, servedRest, rfl⟩ := serve_motion_cons.mp served
            obtain ⟨other, movedAlone, agreeNext, calls, sameHandled⟩ :=
              exists_motion_of_agreeOn agree moved
            obtain ⟨alone, servedAlone, agreeLast⟩ := inductionHypothesis agreeNext servedRest
            refine ⟨alone, serve_motion_cons.mpr ⟨other, _, movedAlone, servedAlone, ?_⟩, agreeLast⟩
            rw [List.filter_cons_of_pos (by simp), calls, sameHandled]
      · rw [List.filter_cons_of_neg (by simpa using named)]
        obtain ⟨next, later, unchanged, servedRest, sameReplies⟩ := serve_cons_of_ne named served
        rw [sameReplies]
        exact inductionHypothesis (unchanged.symm.trans agree) servedRest

/-- Gestures on different windows do not interfere. The requests for one window alone, in the same
order and with the same trees, are not interrupted if the whole run is not. They get the same
replies as in the whole run, and leave the same gesture on the window. -/
theorem windows_do_not_interfere (served : router.serve requests = .ok (last, replies))
    (window : WindowId) :
    ∃ alone, router.serve (requests.filter (·.window == window)) =
        .ok (alone, replies.filter (·.sample.window == window)) ∧
      alone.gestures.get? window = last.gestures.get? window := by
  obtain ⟨alone, servedAlone, agree⟩ := serve_filter (.refl window router) served
  exact ⟨alone, servedAlone, agree.gesture.symm⟩

/-- Two top-level windows at the origin of the desktop. -/
def twoWindows : Tree :=
  let topLevel (id : WindowId) : Node := { id, kind := .topLevel false }
  (Tree.addNode { order := [17, 16] } (topLevel 16)).addNode (topLevel 17)

/-- A motion of the mouse on a window at a whole position in the view. -/
def mouseSample (window : WindowId) (device : Int32) (action : MotionAction) (x y : Int) :
    MotionSample where
  window
  device
  source := InputSource.mouse
  action := action.code
  x := Binary32.ofInt x
  y := Binary32.ofInt y

/-- Scrolls on two windows by one device, one of them forgotten on the way. -/
def mixedRequests : List Request :=
  [.motion twoWindows (mouseSample 16 3 .down 10 10) true,
    .motion twoWindows (mouseSample 17 3 .down 50 50) true,
    .motion twoWindows (mouseSample 16 3 .move 4 12) true,
    .forget 17,
    .motion twoWindows (mouseSample 17 3 .move 60 60) true,
    .motion twoWindows (mouseSample 16 3 .cancel 0 0) false,
    .motion twoWindows (mouseSample 17 3 .down 1 2) true]

/-- In the mixed run the move on the second window is passed on as it is, since its gesture was
forgotten; without the first window it is the same. -/
theorem windows_do_not_interfere_in_mixedRequests :
    ∃ last replies, ({} : Router).serve mixedRequests = .ok (last, replies) ∧
      ∃ alone, ({} : Router).serve (mixedRequests.filter (·.window == 17)) =
          .ok (alone, replies.filter (·.sample.window == 17)) ∧
        alone.gestures.get? 17 = last.gestures.get? 17 ∧
        (replies.filter (·.sample.window == 17)).map Reply.calls =
          [[.motion 17 7 50 50 0 0], [.motion 17 2 60 60 0 0], [.motion 17 7 1 2 0 0]] := by
  have ends : (({} : Router).serve mixedRequests).map
      (fun outcome => (outcome.2.filter (·.sample.window == 17)).map Reply.calls) =
        .ok [[.motion 17 7 50 50 0 0], [.motion 17 2 60 60 0 0], [.motion 17 7 1 2 0 0]] := by
    decide +kernel
  obtain ⟨⟨last, replies⟩, served, calls⟩ := map_eq_ok.mp ends
  obtain ⟨alone, servedAlone, gesture⟩ := windows_do_not_interfere served 17
  exact ⟨last, replies, served, alone, servedAlone, gesture, calls⟩

end Runs

end Router

end WindowRelay
