import Mathlib.Algebra.Group.Prod
import Mathlib.Algebra.Ring.Int.Defs
import Mathlib.Data.List.Forall2
import WindowRelay.Proofs.Input.Runs

/-!
Contract: how much a touchpad scroll reports from its begin to its end.

Owns:
- where a motion arrives, and which of the replies of a run are drags of a scroll;
- calls that report an amount of scrolling, each with its exact value and none of zero;
- over any run that neither begins nor ends the scroll, its drags add up to the way from where it
  began to where it was last seen;
- its cancellation takes all of that back, and its release reports nothing.
-/

namespace WindowRelay

namespace Router

variable {router last : Router} {tree : Tree} {sample down : MotionSample} {handled : Bool}
  {routed : Routed} {window : WindowId} {device : Int32} {node : Node} {gesture : Gesture}
  {origin place : Coordinate × Coordinate} {request : Request} {requests : List Request}
  {replies : List Reply}

/-! ## Drags -/

/-- Where a motion arrives on the desktop, if a window consumes it. -/
def arrival? (tree : Tree) (sample : MotionSample) : Option (Coordinate × Coordinate) :=
  match tree.node? sample.window with
  | none => none
  | some node =>
    if sample.client || !consumes node then none else some (position node sample tree.dpiScale)

theorem arrival?_eq_some_iff : arrival? tree sample = some place ↔
    ∃ node, Arrives tree sample node ∧ position node sample tree.dpiScale = place := by
  unfold arrival?
  constructor
  · intro arrived
    split at arrived
    · cases arrived
    · next node found =>
        split at arrived
        · cases arrived
        · next consumed =>
            simp only [Bool.or_eq_true, Bool.not_eq_true', not_or, Bool.not_eq_true,
              Bool.not_eq_false] at consumed
            exact ⟨node, ⟨found, consumed.1, consumed.2⟩, Option.some.inj arrived⟩
  · rintro ⟨node, arrives, rfl⟩
    simp [arrives.found, arrives.whole, arrives.consumed]

theorem isSome_arrival?_iff :
    (arrival? tree sample).isSome ↔ ∃ node, Arrives tree sample node := by
  rw [Option.isSome_iff_exists]
  constructor
  · rintro ⟨place, arrived⟩
    exact (arrival?_eq_some_iff.mp arrived).imp fun _ there => there.1
  · rintro ⟨node, arrives⟩
    exact ⟨_, arrival?_eq_some_iff.mpr ⟨node, arrives, rfl⟩⟩

/-- A device moved on a window. -/
def Reply.IsMove (window : WindowId) (device : Int32) (reply : Reply) : Prop :=
  reply.sample.window = window ∧ reply.sample.device = device ∧
    MotionAction.ofCode? reply.sample.action = some .move

instance (window : WindowId) (device : Int32) (reply : Reply) :
    Decidable (reply.IsMove window device) := by
  unfold Reply.IsMove
  infer_instance

/-- Where a device drags to on a window. A reading of joystick axes is no drag, and neither is a
move that no window consumes. -/
def Reply.drag? (window : WindowId) (device : Int32) (reply : Reply) :
    Option (Coordinate × Coordinate) :=
  if reply.IsMove window device ∧
      (InputSource.mk reply.sample.source).belongsTo InputSource.joystick = false then
    arrival? reply.tree reply.sample
  else none

/-- The replies to drags. -/
def drags (window : WindowId) (device : Int32) (replies : List Reply) : List Reply :=
  replies.filter (·.drag? window device |>.isSome)

/-- The position of the last drag, or where the scroll began. -/
def lastPlace (window : WindowId) (device : Int32) (origin : Coordinate × Coordinate)
    (replies : List Reply) : Coordinate × Coordinate :=
  (replies.filterMap (·.drag? window device)).getLast?.getD origin

/-- As long as a window has a scroll, its drags are the motions that go on with it. -/
theorem drag?_eq_some_iff {calls : List Call}
    (started : router.gestures.get? window = some gesture) :
    Reply.drag? window gesture.device ⟨tree, sample, calls, handled⟩ = some place ↔
      sample.window = window ∧ ∃ node, router.Scrolls tree sample node gesture ∧
        position node sample tree.dpiScale = place := by
  unfold Reply.drag?
  constructor
  · intro drags
    split at drags
    · next condition =>
        obtain ⟨⟨rfl, sameDevice, move⟩, noJoystick⟩ := condition
        obtain ⟨node, arrives, isPlace⟩ := arrival?_eq_some_iff.mp drags
        exact ⟨rfl, node,
          { found := arrives.found, whole := arrives.whole, consumed := arrives.consumed
            noJoystick, move, started, sameDevice := sameDevice.symm }, isPlace⟩
    · cases drags
  · rintro ⟨rfl, node, scrolls, isPlace⟩
    rw [if_pos ⟨⟨rfl, scrolls.sameDevice.symm, scrolls.move⟩, scrolls.noJoystick⟩]
    exact arrival?_eq_some_iff.mpr ⟨node, scrolls.arrives, isPlace⟩

/-- A move that is no drag reports axes, if anything. -/
theorem calls_of_no_drag (moved : router.motion tree sample handled = .ok routed)
    (isMove : Reply.IsMove window device ⟨tree, sample, routed.calls, routed.handled⟩)
    (noDrag : Reply.drag? window device ⟨tree, sample, routed.calls, routed.handled⟩ = none) :
    ∀ call ∈ routed.calls, ∃ axes, call = .gamepadAxis device axes := by
  obtain ⟨rfl, rfl, move⟩ := isMove
  unfold Router.motion at moved
  split at moved
  · cases moved
    exact nofun
  · next node found =>
      split at moved
      · cases moved
        exact nofun
      · next consumed =>
          unfold motionOn at moved
          dsimp only at moved
          split at moved
          · cases moved
            exact List.forall_mem_singleton.mpr ⟨_, rfl⟩
          · next noAxis =>
              -- neither the window nor the source stands against a drag
              have arrived : arrival? tree sample = some (position node sample tree.dpiScale) := by
                unfold arrival?
                rw [found]
                exact if_neg consumed
              unfold Reply.drag? at noDrag
              rw [if_pos ⟨⟨rfl, rfl, move⟩, by simpa [move] using noAxis⟩, arrived] at noDrag
              cases noDrag

/-- A request that neither begins a scroll on a window nor ends the one of a device there. -/
def Request.Spares (window : WindowId) (device : Int32) : Request → Prop
  | .motion tree sample _ => sample.window = window → (arrival? tree sample).isSome →
      ¬ Begins sample ∧ (sample.device = device → ¬ Ends sample)
  | .forget other => other ≠ window

instance (window : WindowId) (device : Int32) :
    (request : Request) → Decidable (request.Spares window device)
  | .motion tree sample _ =>
    inferInstanceAs (Decidable (sample.window = window → (arrival? tree sample).isSome →
      ¬ Begins sample ∧ (sample.device = device → ¬ Ends sample)))
  | .forget other => inferInstanceAs (Decidable (other ≠ window))

/-! ## Reported amounts -/

/-- Calls that report an amount, which is not zero unless there are none. -/
inductive Reports (report : Coordinate → Call) : List Call → Int → Prop
  | nothing : Reports report [] 0
  | amount {value : Coordinate} (nonzero : value ≠ 0) : Reports report [report value] value.toInt

/-- Calls that report how far a scroll went across and along, all at one place. -/
inductive ReportsScroll (horizontalFlag : UInt32) (window : WindowId)
    (origin : Coordinate × Coordinate) (buttons : UInt32) : List Call → Int × Int → Prop
  | both {horizontal vertical : List Call} {across along : Int}
      (horizontally : Reports
        (.motion window (MotionAction.scroll.code ||| horizontalFlag) origin.1 origin.2 buttons)
        horizontal across)
      (vertically : Reports
        (.motion window MotionAction.scroll.code origin.1 origin.2 buttons) vertical along) :
      ReportsScroll horizontalFlag window origin buttons (horizontal ++ vertical) (across, along)

/-- The pointer is put in place without a button. -/
def hover (window : WindowId) (place : Coordinate × Coordinate) (buttons : UInt32) : Call :=
  .motion window MotionAction.hoverMove.code place.1 place.2 buttons 0

theorem reports_amount (report : Coordinate → Call) (value : Coordinate) :
    Reports report (if value = 0 then [] else [report value]) value.toInt := by
  split
  · next zero =>
      rw [zero]
      exact .nothing
  · next nonzero => exact .amount nonzero

theorem reportsScroll_scrollCalls (router : Router) (gesture : Gesture) (window : WindowId)
    (buttons : UInt32) (amounts : Coordinate × Coordinate) :
    ReportsScroll router.horizontalFlag window (gesture.originX, gesture.originY) buttons
      (router.scrollCalls gesture window buttons amounts)
      (amounts.1.toInt, amounts.2.toInt) :=
  .both (reports_amount _ amounts.1) (reports_amount _ amounts.2)

/-- The drags of a scroll are consumed, and report one amount each. -/
def DragsReport (horizontalFlag : UInt32) (window : WindowId) (device : Int32)
    (origin : Coordinate × Coordinate) (replies : List Reply) (amounts : List (Int × Int)) : Prop :=
  List.Forall₂
    (fun reply amount => reply.handled = true ∧
      ReportsScroll horizontalFlag window origin reply.sample.buttons reply.calls amount)
    (drags window device replies) amounts

/-! ## Runs -/

theorem horizontalFlag_motion (moved : router.motion tree sample handled = .ok routed) :
    routed.router.horizontalFlag = router.horizontalFlag := by
  have handles := handles_motion moved
  generalize routed.router = after at handles ⊢
  cases handles <;> rfl

/-- A motion that is no drag and spares a scroll leaves it as it is. -/
theorem gesture_motion_of_spares (started : router.gestures.get? window = some gesture)
    (spares : (Request.motion tree sample handled).Spares window gesture.device)
    (noDrag : ∀ node, sample.window = window → ¬ router.Scrolls tree sample node gesture)
    (moved : router.motion tree sample handled = .ok routed) :
    routed.router.gestures.get? window = some gesture := by
  by_cases same : sample.window = window
  · subst same
    have handles := handles_motion moved
    generalize routed.router = after at handles ⊢
    cases handles with
    | keeps => exact started
    | @begins node arrives begins =>
        exact absurd begins (spares rfl (isSome_arrival?_iff.mpr ⟨node, arrives⟩)).1
    | @moves node other scrolls =>
        obtain rfl : other = gesture := Option.some.inj (scrolls.started.symm.trans started)
        exact absurd scrolls (noDrag node rfl)
    | @ends node other arrives found sameDevice ends =>
        obtain rfl : other = gesture := Option.some.inj (found.symm.trans started)
        exact absurd ends
          ((spares rfl (isSome_arrival?_iff.mpr ⟨node, arrives⟩)).2 sameDevice.symm)
  · exact (agreeOn_motion_of_ne moved (Ne.symm same)).gesture ▸ started

section Cons

variable {reply : Reply} {later : List Reply} {amount : Int × Int} {amounts : List (Int × Int)}
  {horizontalFlag : UInt32}

theorem lastPlace_cons (window : WindowId) (device : Int32) (origin : Coordinate × Coordinate)
    (reply : Reply) (later : List Reply) :
    lastPlace window device origin (reply :: later) =
      lastPlace window device ((reply.drag? window device).getD origin) later := by
  unfold lastPlace
  cases drags : reply.drag? window device with
  | none => rw [List.filterMap_cons_none drags, Option.getD_none]
  | some place =>
      rw [List.filterMap_cons_some drags, List.getLast?_cons, Option.getD_some, Option.getD_some]

theorem dragsReport_cons_of_none (noDrag : reply.drag? window device = none) :
    DragsReport horizontalFlag window device origin (reply :: later) amounts ↔
      DragsReport horizontalFlag window device origin later amounts := by
  unfold DragsReport drags
  rw [List.filter_cons_of_neg (by simp [noDrag])]

theorem DragsReport.cons (report : DragsReport horizontalFlag window device origin later amounts)
    (drag : reply.drag? window device = some place) (handled : reply.handled = true)
    (calls : ReportsScroll horizontalFlag window origin reply.sample.buttons reply.calls amount) :
    DragsReport horizontalFlag window device origin (reply :: later) (amount :: amounts) := by
  unfold DragsReport drags
  rw [List.filter_cons_of_pos (by simp [drag])]
  exact .cons ⟨handled, calls⟩ report

end Cons

/-- What a drag does: it reports the way from where the scroll was last seen. -/
theorem Scrolls.motion_eq_ok (scrolls : router.Scrolls tree sample node gesture)
    (moved : router.motion tree sample handled = .ok routed)
    (isPlace : position node sample tree.dpiScale = place) :
    routed.router.gestures.get? sample.window = some (gesture.movedTo place.1 place.2) ∧
      routed.handled = true ∧
      ReportsScroll router.horizontalFlag sample.window (gesture.originX, gesture.originY)
        sample.buttons routed.calls
        (gesture.lastX.toInt - place.1.toInt, place.2.toInt - gesture.lastY.toInt) := by
  subst isPlace
  rw [scrolls.motion handled] at moved
  obtain ⟨amounts, isAmounts, finished⟩ := bind_eq_ok.mp moved
  cases finished
  obtain ⟨across, along⟩ :=
    Gesture.toInt_of_moveAmounts (Interruption.after_eq_ok_iff.mp isAmounts)
  refine ⟨by rw [Table.get?_insert, if_pos rfl], rfl, ?_⟩
  rw [← across, ← along]
  exact reportsScroll_scrollCalls router gesture sample.window sample.buttons amounts

/-- Over a run that neither begins nor ends it, a scroll on a window reports the way from where it
was last seen, and goes on. -/
theorem serve_scrolls (started : router.gestures.get? window = some gesture)
    (spares : ∀ request ∈ requests, request.Spares window gesture.device)
    (served : router.serve requests = .ok (last, replies)) :
    ∃ amounts place,
      lastPlace window gesture.device (gesture.lastX, gesture.lastY) replies = place ∧
      DragsReport router.horizontalFlag window gesture.device (gesture.originX, gesture.originY)
        replies amounts ∧
      amounts.sum =
        (gesture.lastX.toInt - place.1.toInt, place.2.toInt - gesture.lastY.toInt) ∧
      last.gestures.get? window = some (gesture.movedTo place.1 place.2) ∧
      last.horizontalFlag = router.horizontalFlag := by
  induction requests generalizing router gesture replies with
  | nil =>
      cases served
      exact ⟨[], _, rfl, .nil, Prod.ext (Int.sub_self _).symm (Int.sub_self _).symm, started, rfl⟩
  | cons request rest inductionHypothesis =>
      have sparesFirst := spares request List.mem_cons_self
      have sparesRest := fun other inRest => spares other (List.mem_cons_of_mem request inRest)
      cases request with
      | forget other =>
          have kept : (router.forget other).gestures.get? window = some gesture :=
            (agreeOn_forget_of_ne router (Ne.symm sparesFirst)).gesture ▸ started
          exact (inductionHypothesis kept sparesRest served :)
      | motion tree sample handled =>
          obtain ⟨routed, later, moved, servedRest, rfl⟩ := serve_motion_cons.mp served
          rw [lastPlace_cons, ← horizontalFlag_motion moved]
          cases drag : Reply.drag? window gesture.device
              ⟨tree, sample, routed.calls, routed.handled⟩ with
          | none =>
              have kept := gesture_motion_of_spares started sparesFirst
                (fun node same scrolls => by
                  rw [(drag?_eq_some_iff started).mpr ⟨same, node, scrolls, rfl⟩] at drag
                  cases drag) moved
              obtain ⟨amounts, place, isLast, report, total, finalGesture, finalFlag⟩ :=
                inductionHypothesis kept sparesRest servedRest
              exact ⟨amounts, place, isLast, (dragsReport_cons_of_none drag).mpr report, total,
                finalGesture, finalFlag⟩
          | some next =>
              obtain ⟨rfl, node, scrolls, isNext⟩ := (drag?_eq_some_iff started).mp drag
              obtain ⟨goesOn, consumed, calls⟩ := scrolls.motion_eq_ok moved isNext
              rw [← horizontalFlag_motion moved] at calls
              obtain ⟨amounts, place, isLast, report, total, finalGesture, finalFlag⟩ :=
                inductionHypothesis goesOn sparesRest servedRest
              refine ⟨_, place, isLast, report.cons drag consumed calls, ?_, finalGesture,
                finalFlag⟩
              -- the way to this drag and the way on from it
              rw [List.sum_cons, total, Prod.mk_add_mk]
              unfold Gesture.movedTo
              congr 1 <;> dsimp only <;> omega

/-! ## The end of a scroll -/

/-- A scroll on a window is over: behind its last reports the pointer is back where it began. -/
structure Finishes (window : WindowId) (origin : Coordinate × Coordinate) (buttons : UInt32)
    (handled : Bool) (reports : List Call) (routed : Routed) : Prop where
  calls : routed.calls = reports ++ [hover window origin buttons]
  handled : routed.handled = handled
  ended : routed.router.hasGesture window = false

theorem finishes_endGesture (router : Router) (gesture : Gesture) (window : WindowId)
    (buttons : UInt32) (amounts : Coordinate × Coordinate) (handled : Bool) :
    Finishes window (gesture.originX, gesture.originY) buttons handled
      (router.scrollCalls gesture window buttons amounts)
      (router.endGesture gesture window buttons amounts handled) where
  calls := rfl
  handled := rfl
  ended := by simp [endGesture, hasGesture_forget]

section Ends

variable (started : router.gestures.get? sample.window = some gesture)
  (arrived : (arrival? tree sample).isSome) (sameDevice : sample.device = gesture.device)

include started arrived sameDevice

/-- A release reports nothing, wherever it happens. -/
theorem motion_release (release : MotionAction.ofCode? sample.action = some .up)
    (handled : Bool) :
    ∃ routed, router.motion tree sample handled = .ok routed ∧
      Finishes sample.window (gesture.originX, gesture.originY) sample.buttons handled []
        routed := by
  obtain ⟨node, arrives⟩ := isSome_arrival?_iff.mp arrived
  exact ⟨_, arrives.motion_up started sameDevice.symm release handled,
    finishes_endGesture router gesture sample.window sample.buttons (0, 0) handled⟩

/-- A cancellation reports the way back to where the scroll began, if both amounts of it are
coordinates. -/
theorem motion_cancellation (cancel : MotionAction.ofCode? sample.action = some .cancel)
    (handled : Bool) :
    (Succeeds (router.motion tree sample handled) ↔ gesture.Cancelable) ∧
      ∀ routed, router.motion tree sample handled = .ok routed →
        ∃ reports, Finishes sample.window (gesture.originX, gesture.originY) sample.buttons handled
            reports routed ∧
          ReportsScroll router.horizontalFlag sample.window (gesture.originX, gesture.originY)
            sample.buttons reports
            (gesture.lastX.toInt - gesture.originX.toInt,
              gesture.originY.toInt - gesture.lastY.toInt) := by
  obtain ⟨node, arrives⟩ := isSome_arrival?_iff.mp arrived
  refine ⟨arrives.succeeds_cancel_iff started sameDevice.symm cancel handled,
    fun routed moved => ?_⟩
  rw [arrives.motion_cancel started sameDevice.symm cancel handled] at moved
  obtain ⟨amounts, isAmounts, finished⟩ := bind_eq_ok.mp moved
  cases finished
  obtain ⟨across, along⟩ :=
    Gesture.toInt_of_cancelAmounts (Interruption.after_eq_ok_iff.mp isAmounts)
  refine ⟨_, finishes_endGesture router gesture sample.window sample.buttons amounts handled, ?_⟩
  rw [← across, ← along]
  exact reportsScroll_scrollCalls router gesture sample.window sample.buttons amounts

end Ends

/-- How a scroll of a device on a window ends, from the place of its last drag on: a release reports
nothing, and a cancellation takes back the total of what was reported. -/
structure Balanced (router : Router) (window : WindowId) (device : Int32)
    (origin place : Coordinate × Coordinate) (total : Int × Int) : Prop where
  released : ∀ tree sample handled, (arrival? tree sample).isSome → sample.window = window →
    sample.device = device → MotionAction.ofCode? sample.action = some .up →
    ∃ routed, router.motion tree sample handled = .ok routed ∧
      Finishes window origin sample.buttons handled [] routed
  cancelable : ∀ tree sample handled, (arrival? tree sample).isSome → sample.window = window →
    sample.device = device → MotionAction.ofCode? sample.action = some .cancel →
    (Succeeds (router.motion tree sample handled) ↔
      Coordinate.Fits (place.1.toInt - origin.1.toInt) ∧
        Coordinate.Fits (origin.2.toInt - place.2.toInt))
  cancelled : ∀ tree sample handled, (arrival? tree sample).isSome → sample.window = window →
    sample.device = device → MotionAction.ofCode? sample.action = some .cancel →
    ∀ routed, router.motion tree sample handled = .ok routed →
    ∃ reports amount, Finishes window origin sample.buttons handled reports routed ∧
      ReportsScroll router.horizontalFlag window origin sample.buttons reports amount ∧
      total + amount = 0

theorem balanced (started : router.gestures.get? window = some gesture) :
    router.Balanced window gesture.device (gesture.originX, gesture.originY)
      (gesture.lastX, gesture.lastY)
      (gesture.originX.toInt - gesture.lastX.toInt,
        gesture.lastY.toInt - gesture.originY.toInt) where
  released tree sample handled arrived sameWindow sameDevice release := by
    subst sameWindow
    exact motion_release started arrived sameDevice release handled
  cancelable tree sample handled arrived sameWindow sameDevice cancel := by
    subst sameWindow
    exact (motion_cancellation started arrived sameDevice cancel handled).1.trans
      Gesture.cancelable_iff
  cancelled tree sample handled arrived sameWindow sameDevice cancel routed moved := by
    subst sameWindow
    obtain ⟨reports, finishes, reported⟩ :=
      (motion_cancellation started arrived sameDevice cancel handled).2 routed moved
    refine ⟨reports, _, finishes, reported, ?_⟩
    rw [Prod.mk_add_mk]
    exact Prod.ext (by dsimp only [Prod.fst_zero]; omega) (by dsimp only [Prod.snd_zero]; omega)

/-- A touchpad scroll is conserved. It begins where the mouse goes down without a button. Over any
run that neither begins another scroll on the window nor ends this one, its drags report the way
from the origin to the last drag, anchored at the origin and never an amount of zero; its other
moves there report no scrolling, and the scroll goes on. Then its cancellation takes back all that
was reported, and its release reports nothing; both put the pointer back at the origin, once, and
leave no scroll on the window. -/
theorem scroll_is_conserved (arrived : arrival? tree down = some origin) (begins : Begins down)
    (handled : Bool) :
    ∃ start, router.motion tree down handled = .ok start ∧
      start.calls = [hover down.window origin down.buttons] ∧ start.handled = handled ∧
      ∀ requests last replies,
        (∀ request ∈ requests, request.Spares down.window down.device) →
        start.router.serve requests = .ok (last, replies) →
        ∃ amounts place, lastPlace down.window down.device origin replies = place ∧
          DragsReport router.horizontalFlag down.window down.device origin replies amounts ∧
          amounts.sum = (origin.1.toInt - place.1.toInt, place.2.toInt - origin.2.toInt) ∧
          (∀ reply ∈ replies, reply.IsMove down.window down.device →
            reply.drag? down.window down.device = none →
            ∀ call ∈ reply.calls, ∃ axes, call = .gamepadAxis down.device axes) ∧
          last.hasGesture down.window = true ∧ last.horizontalFlag = router.horizontalFlag ∧
          last.Balanced down.window down.device origin place amounts.sum := by
  obtain ⟨node, arrives, isOrigin⟩ := arrival?_eq_some_iff.mp arrived
  have beginning : router.motion tree down handled = _ := arrives.motion_begins begins handled
  rw [isOrigin] at beginning
  refine ⟨_, beginning, rfl, rfl, ?_⟩
  intro requests last replies spares served
  have started : (router.gestures.insert down.window
      (Gesture.startingAt down.device origin.1 origin.2)).get? down.window =
        some (Gesture.startingAt down.device origin.1 origin.2) := by
    rw [Table.get?_insert, if_pos rfl]
  obtain ⟨amounts, place, isLast, report, total, active, sameFlag⟩ :=
    serve_scrolls started spares served
  refine ⟨amounts, place, isLast, report, total,
    forall_reply_of_serve (fun moved isMove noDrag => calls_of_no_drag moved isMove noDrag) served,
    ?_, sameFlag, ?_⟩
  · unfold hasGesture Table.contains
    rw [active, Option.isSome_some]
  · rw [total]
    exact balanced active

/-- Requests around two drags of a scroll: a scroll on another window, a release by another device,
and a reading of axes by the same one. -/
def dragRequests : List Request :=
  [.motion twoWindows (mouseSample 17 3 .down 50 50) true,
    .motion twoWindows (mouseSample 16 3 .move 4 12) true,
    .motion twoWindows (mouseSample 16 5 .up 0 0) true,
    .motion twoWindows (mouseSample 16 3 .move 7 30) false,
    .motion twoWindows { mouseSample 16 3 .move 90 90 with source := InputSource.joystick } true]

/-- The drags report 3 across and 20 along, and the cancellation takes both back. -/
theorem scroll_is_conserved_in_dragRequests :
    ∃ start last replies, ({} : Router).motion twoWindows (mouseSample 16 3 .down 10 10) true =
        .ok start ∧
      start.calls = [hover 16 (10, 10) 0] ∧ start.router.serve dragRequests = .ok (last, replies) ∧
      ∃ amounts, DragsReport 0x10000 16 3 (10, 10) replies amounts ∧ amounts.sum = (3, 20) ∧
        ∃ finish reports, last.motion twoWindows (mouseSample 16 3 .cancel 0 0) true = .ok finish ∧
          ReportsScroll 0x10000 16 (10, 10) 0 reports (-3, -20) ∧
          Finishes 16 (10, 10) 0 true reports finish := by
  obtain ⟨start, moved, calls, -, run⟩ := scroll_is_conserved
    (show arrival? twoWindows (mouseSample 16 3 .down 10 10) = some (10, 10) by decide +kernel)
    (by decide +kernel) true
  have ran : ((({} : Router).motion twoWindows (mouseSample 16 3 .down 10 10) true).bind
      (·.router.serve dragRequests)).map (fun outcome => lastPlace 16 3 (10, 10) outcome.2) =
        .ok (7, 30) := by
    decide +kernel
  obtain ⟨⟨last, replies⟩, served, isLast⟩ := map_eq_ok.mp ran
  rw [moved] at served
  obtain ⟨amounts, place, same, report, total, -, -, sameFlag, ends⟩ :=
    run dragRequests last replies (by decide +kernel) served
  obtain rfl : place = (7, 30) := same.symm.trans isLast
  have arrives : (arrival? twoWindows (mouseSample 16 3 .cancel 0 0)).isSome := by decide +kernel
  obtain ⟨finish, finished⟩ :=
    (ends.cancelable twoWindows _ true arrives rfl rfl (by decide)).mpr (by decide)
  obtain ⟨reports, amount, finishes, reported, back⟩ :=
    ends.cancelled twoWindows _ true arrives rfl rfl (by decide) finish finished
  rw [sameFlag] at reported
  have reversed : amount = (-3, -20) := by
    rw [total] at back
    exact eq_neg_of_add_eq_zero_right back
  exact ⟨start, last, replies, moved, calls, served, amounts, report, total, finish, reports,
    finished, reversed ▸ reported, finishes⟩

end Router

end WindowRelay
