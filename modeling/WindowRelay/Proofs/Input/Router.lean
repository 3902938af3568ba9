import WindowRelay.Input.Router
import WindowRelay.Proofs.Geometry.Layout
import WindowRelay.Proofs.Outcome

/-!
Contract: what routing an event does to the gestures, and when it is not interrupted.

Owns:
- a motion starts, moves or ends a gesture on its own window, or leaves the router alone;
- a gesture starts only on a live window that consumes pointer events;
- what a motion gives that begins, moves, releases or cancels a gesture;
- routing is not interrupted as long as each move stays within reach of where the gesture was last
  seen and of where it started;
- a move out of reach is interrupted, or the cancellation behind it is.
-/

namespace WindowRelay

namespace Gesture

open Coordinate

variable {gesture : Gesture} {x y : Coordinate}

/-- The amounts of a move are the exact ones. -/
theorem toInt_of_moveAmounts {amounts : Coordinate × Coordinate}
    (succeeded : gesture.moveAmounts x y = .ok amounts) :
    amounts.1.toInt = gesture.lastX.toInt - x.toInt ∧
      amounts.2.toInt = y.toInt - gesture.lastY.toInt := by
  obtain ⟨horizontal, isHorizontal, rest⟩ := bind_eq_ok.mp succeeded
  obtain ⟨vertical, isVertical, rest⟩ := bind_eq_ok.mp rest
  cases rest
  exact ⟨toInt_of_exactly isHorizontal, toInt_of_exactly isVertical⟩

/-- The amounts of a cancellation are the exact ones. -/
theorem toInt_of_cancelAmounts {amounts : Coordinate × Coordinate}
    (succeeded : gesture.cancelAmounts = .ok amounts) :
    amounts.1.toInt = gesture.lastX.toInt - gesture.originX.toInt ∧
      amounts.2.toInt = gesture.originY.toInt - gesture.lastY.toInt := by
  obtain ⟨horizontal, isHorizontal, rest⟩ := bind_eq_ok.mp succeeded
  obtain ⟨vertical, isVertical, rest⟩ := bind_eq_ok.mp rest
  cases rest
  exact ⟨toInt_of_exactly isHorizontal, toInt_of_exactly isVertical⟩

/-- A cancellation of the gesture succeeds. -/
def Cancelable (gesture : Gesture) : Prop :=
  Succeeds gesture.cancelAmounts

theorem cancelable_iff : gesture.Cancelable ↔
    Fits (gesture.lastX.toInt - gesture.originX.toInt) ∧
      Fits (gesture.originY.toInt - gesture.lastY.toInt) :=
  succeeds_exactly_bind fun _ _ => succeeds_exactly_map

theorem cancelable_startingAt (device : Int32) (x y : Coordinate) :
    (startingAt device x y).Cancelable := by
  rw [cancelable_iff]
  unfold startingAt
  simp only [Int.sub_self]
  decide

/-- The gesture can move to a position, and be cancelled from there. -/
structure Reaches (gesture : Gesture) (x y : Coordinate) : Prop where
  across : Fits (gesture.lastX.toInt - x.toInt)
  along : Fits (y.toInt - gesture.lastY.toInt)
  backAcross : Fits (x.toInt - gesture.originX.toInt)
  backAlong : Fits (gesture.originY.toInt - y.toInt)

instance (gesture : Gesture) (x y : Coordinate) : Decidable (gesture.Reaches x y) :=
  decidable_of_iff
    (Fits (gesture.lastX.toInt - x.toInt) ∧ Fits (y.toInt - gesture.lastY.toInt) ∧
      Fits (x.toInt - gesture.originX.toInt) ∧ Fits (gesture.originY.toInt - y.toInt))
    ⟨fun ⟨across, along, backAcross, backAlong⟩ => ⟨across, along, backAcross, backAlong⟩,
      fun ⟨across, along, backAcross, backAlong⟩ => ⟨across, along, backAcross, backAlong⟩⟩

theorem reaches_iff : gesture.Reaches x y ↔
    Succeeds (gesture.moveAmounts x y) ∧ (gesture.movedTo x y).Cancelable := by
  have moves : Succeeds (gesture.moveAmounts x y) ↔
      Fits (gesture.lastX.toInt - x.toInt) ∧ Fits (y.toInt - gesture.lastY.toInt) :=
    succeeds_exactly_bind fun _ _ => succeeds_exactly_map
  rw [moves, cancelable_iff]
  constructor
  · rintro ⟨across, along, backAcross, backAlong⟩
    exact ⟨⟨across, along⟩, backAcross, backAlong⟩
  · rintro ⟨⟨across, along⟩, backAcross, backAlong⟩
    exact ⟨across, along, backAcross, backAlong⟩

end Gesture

namespace Router

variable {router : Router} {tree : Tree} {sample : MotionSample} {handled : Bool} {routed : Routed}
  {window : WindowId} {node : Node} {before gesture : Gesture} {next : Router}

/-! ## What happens to the gestures -/

theorem hasGesture_forget (router : Router) (window other : WindowId) :
    (router.forget window).hasGesture other = (other != window && router.hasGesture other) := by
  unfold hasGesture forget Table.contains
  rw [Table.get?_erase]
  by_cases same : other = window <;> simp [same]

theorem hasGesture_insert (router : Router) (window other : WindowId) (gesture : Gesture) :
    Router.hasGesture { router with gestures := router.gestures.insert window gesture } other =
      (other == window || router.hasGesture other) := by
  unfold hasGesture Table.contains
  rw [Table.get?_insert]
  by_cases same : other = window <;> simp [same]

/-- The mouse goes down without a button, which begins a gesture. -/
structure Begins (sample : MotionSample) : Prop where
  mouse : (InputSource.mk sample.source).belongsTo InputSource.mouse = true
  noButton : sample.buttons = 0
  down : MotionAction.ofCode? sample.action = some .down

instance (sample : MotionSample) : Decidable (Begins sample) :=
  decidable_of_iff
    ((InputSource.mk sample.source).belongsTo InputSource.mouse = true ∧ sample.buttons = 0 ∧
      MotionAction.ofCode? sample.action = some .down)
    ⟨fun ⟨mouse, noButton, down⟩ => ⟨mouse, noButton, down⟩,
      fun ⟨mouse, noButton, down⟩ => ⟨mouse, noButton, down⟩⟩

/-- The device goes up or is cancelled, which ends its gesture. -/
def Ends (sample : MotionSample) : Prop :=
  MotionAction.ofCode? sample.action = some .up ∨ MotionAction.ofCode? sample.action = some .cancel

instance (sample : MotionSample) : Decidable (Ends sample) := by
  unfold Ends
  infer_instance

/-- A motion arrives at a window: at the whole view of one that consumes pointer events. -/
structure Arrives (tree : Tree) (sample : MotionSample) (node : Node) : Prop where
  found : tree.node? sample.window = some node
  whole : sample.client = false
  consumed : consumes node = true

/-- A motion goes on with a gesture on its window. -/
structure Scrolls (router : Router) (tree : Tree) (sample : MotionSample) (node : Node)
    (gesture : Gesture) : Prop where
  found : tree.node? sample.window = some node
  started : router.gestures.get? sample.window = some gesture
  whole : sample.client = false
  consumed : consumes node = true
  noJoystick : (InputSource.mk sample.source).belongsTo InputSource.joystick = false
  move : MotionAction.ofCode? sample.action = some .move
  sameDevice : gesture.device = sample.device

instance (router : Router) (tree : Tree) (sample : MotionSample) (node : Node)
    (gesture : Gesture) : Decidable (router.Scrolls tree sample node gesture) :=
  decidable_of_iff
    (tree.node? sample.window = some node ∧ router.gestures.get? sample.window = some gesture ∧
      sample.client = false ∧ consumes node = true ∧
      (InputSource.mk sample.source).belongsTo InputSource.joystick = false ∧
      MotionAction.ofCode? sample.action = some .move ∧ gesture.device = sample.device)
    ⟨fun ⟨found, started, whole, consumed, noJoystick, move, sameDevice⟩ =>
        ⟨found, started, whole, consumed, noJoystick, move, sameDevice⟩,
      fun ⟨found, started, whole, consumed, noJoystick, move, sameDevice⟩ =>
        ⟨found, started, whole, consumed, noJoystick, move, sameDevice⟩⟩

theorem Scrolls.arrives (scrolls : router.Scrolls tree sample node gesture) :
    Arrives tree sample node :=
  ⟨scrolls.found, scrolls.whole, scrolls.consumed⟩

/-- What a motion does to the gestures: nothing, or the one on its window begins, moves or ends. -/
inductive Handles (router : Router) (tree : Tree) (sample : MotionSample) : Router → Prop
  | keeps : Handles router tree sample router
  | begins {node : Node} (arrives : Arrives tree sample node) (begins : Begins sample) :
      Handles router tree sample
        { router with
          gestures := router.gestures.insert sample.window
            (Gesture.startingAt sample.device (position node sample tree.dpiScale).1
              (position node sample tree.dpiScale).2) }
  | moves {node : Node} {gesture : Gesture} (scrolls : router.Scrolls tree sample node gesture) :
      Handles router tree sample
        { router with
          gestures := router.gestures.insert sample.window
            (gesture.movedTo (position node sample tree.dpiScale).1
              (position node sample tree.dpiScale).2) }
  | ends {node : Node} {gesture : Gesture} (arrives : Arrives tree sample node)
      (started : router.gestures.get? sample.window = some gesture)
      (sameDevice : gesture.device = sample.device) (ends : Ends sample) :
      Handles router tree sample (router.forget sample.window)

theorem handles_touch (arrives : Arrives tree sample node)
    (noAxis : ((InputSource.mk sample.source).belongsTo InputSource.joystick &&
      MotionAction.ofCode? sample.action == some .move) = false)
    (touched : router.touch sample (MotionAction.ofCode? sample.action)
      (position node sample tree.dpiScale).1 (position node sample tree.dpiScale).2 handled =
        .ok routed) : router.Handles tree sample routed.router := by
  unfold touch at touched
  dsimp only at touched
  split at touched
  · next begins =>
      cases touched
      simp only [Bool.and_eq_true, beq_iff_eq] at begins
      exact .begins arrives ⟨begins.1.1, begins.1.2, begins.2⟩
  · split at touched
    · cases touched
      exact .keeps
    · next gesture started =>
        split at touched
        · cases touched
          exact .keeps
        · next otherDevice =>
            have sameDevice : gesture.device = sample.device := by simpa using otherDevice
            split at touched
            · next move =>
                obtain ⟨amounts, -, rest⟩ := bind_eq_ok.mp touched
                cases rest
                exact .moves
                  { found := arrives.found, whole := arrives.whole, consumed := arrives.consumed
                    noJoystick := by simpa [move] using noAxis
                    started, move, sameDevice }
            · next up =>
                cases touched
                exact .ends arrives started sameDevice (.inl up)
            · next cancel =>
                obtain ⟨amounts, -, rest⟩ := bind_eq_ok.mp touched
                cases rest
                exact .ends arrives started sameDevice (.inr cancel)
            · cases touched
              exact .keeps

/-- Every motion that is not interrupted. -/
theorem handles_motion (moved : router.motion tree sample handled = .ok routed) :
    router.Handles tree sample routed.router := by
  unfold motion at moved
  split at moved
  · cases moved
    exact .keeps
  · next node found =>
      split at moved
      · cases moved
        exact .keeps
      · next consumed =>
          simp only [Bool.or_eq_true, Bool.not_eq_true', not_or, Bool.not_eq_true,
            Bool.not_eq_false] at consumed
          unfold motionOn at moved
          dsimp only at moved
          split at moved
          · cases moved
            exact .keeps
          · next noAxis =>
              split at moved
              · obtain ⟨calls, -, rest⟩ := bind_eq_ok.mp moved
                cases rest
                exact .keeps
              · split at moved
                · split at moved <;> cases moved <;> exact .keeps
                · exact handles_touch ⟨found, consumed.1, consumed.2⟩ (by simpa using noAxis) moved

/-- After a motion, only its window may have a gesture that it had not before, and it is live. -/
theorem hasGesture_motion (moved : router.motion tree sample handled = .ok routed)
    (active : routed.router.hasGesture window = true) :
    router.hasGesture window = true ∨
      ((∃ node, tree.node? window = some node ∧ consumes node = true) ∧
        window = sample.window) := by
  have inserted : ∀ {node gesture}, Arrives tree sample node →
      Router.hasGesture { router with gestures := router.gestures.insert sample.window gesture }
        window = true →
      router.hasGesture window = true ∨
        ((∃ node, tree.node? window = some node ∧ consumes node = true) ∧
          window = sample.window) := by
    intro node gesture arrives active
    rw [hasGesture_insert, Bool.or_eq_true, beq_iff_eq] at active
    rcases active with rfl | active
    · exact .inr ⟨⟨node, arrives.found, arrives.consumed⟩, rfl⟩
    · exact .inl active
  have handles := handles_motion moved
  generalize routed.router = after at handles active
  cases handles with
  | keeps => exact .inl active
  | begins arrives => exact inserted arrives active
  | moves scrolls => exact inserted scrolls.arrives active
  | ends =>
      rw [hasGesture_forget, Bool.and_eq_true] at active
      exact .inl active.2

/-! ## Routing that is not interrupted -/

/-- A notch the other way round is a coordinate, and every gesture can be cancelled. -/
structure Safe (router : Router) : Prop where
  wheel : Coordinate.Fits (-router.wheelStep.toInt)
  cancelable : ∀ window gesture, router.gestures.get? window = some gesture → gesture.Cancelable

/-- A motion that goes on with a gesture stays within its reach. -/
def Follows (router : Router) (tree : Tree) (sample : MotionSample) : Prop :=
  ∀ node gesture, router.Scrolls tree sample node gesture →
    gesture.Reaches (position node sample tree.dpiScale).1 (position node sample tree.dpiScale).2

instance (router : Router) (tree : Tree) (sample : MotionSample) :
    Decidable (router.Follows tree sample) :=
  decidable_of_iff
    (∀ node ∈ tree.node? sample.window, ∀ gesture ∈ router.gestures.get? sample.window,
      router.Scrolls tree sample node gesture →
        gesture.Reaches (position node sample tree.dpiScale).1
          (position node sample tree.dpiScale).2)
    ⟨fun within node gesture scrolls => within node scrolls.found gesture scrolls.started scrolls,
      fun follows node _ gesture _ scrolls => follows node gesture scrolls⟩

theorem Safe.succeeds_wheelCalls (safe : router.Safe) (sample : MotionSample) (x y : Coordinate) :
    Succeeds (router.wheelCalls sample x y) := by
  have negated : Succeeds (Coordinate.neg router.wheelStep) :=
    Coordinate.succeeds_exactly_iff.mpr safe.wheel
  obtain ⟨step, isStep⟩ := negated
  have vertical : Succeeds (router.verticalWheelCalls sample x y) := by
    unfold verticalWheelCalls
    dsimp only
    repeat' split
    · exact succeeds_ok _
    · exact ⟨_, bind_eq_ok.mpr ⟨step, isStep, rfl⟩⟩
    · exact succeeds_ok _
  have horizontal : Succeeds (router.horizontalWheelCalls sample x y) := by
    unfold horizontalWheelCalls
    dsimp only
    repeat' split
    · exact succeeds_ok _
    · exact succeeds_ok _
    · exact ⟨_, bind_eq_ok.mpr ⟨step, isStep, rfl⟩⟩
  exact succeeds_bind.mpr ((succeeds_after vertical).imp fun _ isVertical =>
    ⟨isVertical, succeeds_bind.mpr ((succeeds_after horizontal).imp fun _ isHorizontal =>
      ⟨isHorizontal, succeeds_ok _⟩)⟩)

/-- A touch does arithmetic only when it moves or cancels a gesture of its device. -/
theorem Safe.succeeds_touch (safe : router.Safe) {action : Option MotionAction}
    {x y : Coordinate}
    (reaches : ∀ gesture, action = some .move → router.gestures.get? sample.window = some gesture →
      gesture.device = sample.device → gesture.Reaches x y) :
    Succeeds (router.touch sample action x y handled) := by
  unfold touch
  dsimp only
  split
  · exact succeeds_ok _
  · split
    · exact succeeds_ok _
    · next gesture found =>
        split
        · exact succeeds_ok _
        · next sameDevice =>
            split
            · have within := reaches gesture rfl found (by simpa using sameDevice)
              obtain ⟨amounts, isAmounts⟩ := (Gesture.reaches_iff.mp within).1
              exact ⟨_, bind_eq_ok.mpr ⟨amounts, Interruption.after_eq_ok_iff.mpr isAmounts, rfl⟩⟩
            · exact succeeds_ok _
            · obtain ⟨amounts, isAmounts⟩ := safe.cancelable _ gesture found
              exact ⟨_, bind_eq_ok.mpr ⟨amounts, Interruption.after_eq_ok_iff.mpr isAmounts, rfl⟩⟩
            · exact succeeds_ok _

theorem Safe.succeeds_motion (safe : router.Safe) (follows : router.Follows tree sample)
    (handled : Bool) : Succeeds (router.motion tree sample handled) := by
  unfold motion
  split
  · exact succeeds_ok _
  · next node found =>
      split
      · exact succeeds_ok _
      · next consumed =>
          simp only [Bool.or_eq_true, Bool.not_eq_true', not_or, Bool.not_eq_true,
            Bool.not_eq_false] at consumed
          unfold motionOn
          dsimp only
          split
          · exact succeeds_ok _
          · next notJoystick =>
              split
              · obtain ⟨calls, isCalls⟩ := safe.succeeds_wheelCalls sample
                  (position node sample tree.dpiScale).1 (position node sample tree.dpiScale).2
                exact ⟨_, bind_eq_ok.mpr ⟨calls, isCalls, rfl⟩⟩
              · repeat' split
                · exact succeeds_ok _
                · exact succeeds_ok _
                · refine safe.succeeds_touch fun gesture isMove started sameDevice => ?_
                  exact follows node gesture
                    { found, whole := consumed.1, consumed := consumed.2
                      noJoystick := by simpa [isMove] using notJoystick
                      move := isMove, started, sameDevice }

theorem Safe.forget (safe : router.Safe) (window : WindowId) : (router.forget window).Safe where
  wheel := safe.wheel
  cancelable other gesture found := by
    unfold Router.forget at found
    rw [Table.get?_erase] at found
    split at found
    · cases found
    · exact safe.cancelable other gesture found

theorem Safe.insert (safe : router.Safe) (window : WindowId) (cancelable : gesture.Cancelable) :
    Router.Safe { router with gestures := router.gestures.insert window gesture } where
  wheel := safe.wheel
  cancelable other inserted found := by
    rw [Table.get?_insert] at found
    split at found
    · cases found
      exact cancelable
    · exact safe.cancelable other inserted found

/-- A gesture that starts can be cancelled, and one that goes on within its reach. -/
theorem Safe.motion (safe : router.Safe) (follows : router.Follows tree sample)
    (moved : router.motion tree sample handled = .ok routed) : routed.router.Safe := by
  have handles := handles_motion moved
  generalize routed.router = after at handles
  cases handles with
  | keeps => exact safe
  | begins => exact safe.insert _ (Gesture.cancelable_startingAt sample.device _ _)
  | @moves node gesture scrolls =>
      exact safe.insert _ (Gesture.reaches_iff.mp (follows node gesture scrolls)).2
  | ends => exact safe.forget sample.window

/-! ## Moves out of reach -/

/-- The event that cancels the gesture on the window of a motion. -/
def cancelling (sample : MotionSample) : MotionSample :=
  { sample with action := MotionAction.cancel.code }

/-- A motion that goes on with a gesture moves it. -/
theorem Scrolls.motion (scrolls : router.Scrolls tree sample node gesture) (handled : Bool) :
    router.motion tree sample handled =
      (do
        let amounts ← gesture.moveAmounts (position node sample tree.dpiScale).1
          (position node sample tree.dpiScale).2
        pure
          { router :=
              { router with
                gestures := router.gestures.insert sample.window
                  (gesture.movedTo (position node sample tree.dpiScale).1
                    (position node sample tree.dpiScale).2) }
            calls := router.scrollCalls gesture sample.window sample.buttons amounts
            handled := true }) := by
  unfold Router.motion motionOn touch
  simp [scrolls.found, scrolls.whole, scrolls.consumed, scrolls.noJoystick, scrolls.move,
    scrolls.started, scrolls.sameDevice, isHoverOrButton]

section Arrival

variable (arrives : Arrives tree sample node)

include arrives

/-- A motion that begins a gesture puts the pointer in place. -/
theorem Arrives.motion_begins (begins : Begins sample) (handled : Bool) :
    router.motion tree sample handled =
      .ok
        { router :=
            { router with
              gestures := router.gestures.insert sample.window
                (Gesture.startingAt sample.device (position node sample tree.dpiScale).1
                  (position node sample tree.dpiScale).2) }
          calls := [.motion sample.window MotionAction.hoverMove.code
            (position node sample tree.dpiScale).1 (position node sample tree.dpiScale).2
            sample.buttons 0]
          handled } := by
  unfold Router.motion motionOn touch
  simp [arrives.found, arrives.whole, arrives.consumed, begins.mouse, begins.noButton, begins.down,
    isHoverOrButton]
  rfl

variable (started : router.gestures.get? sample.window = some gesture)
  (sameDevice : gesture.device = sample.device)

include started sameDevice

theorem Arrives.motion_up (up : MotionAction.ofCode? sample.action = some .up) (handled : Bool) :
    router.motion tree sample handled =
      .ok (router.endGesture gesture sample.window sample.buttons (0, 0) handled) := by
  unfold Router.motion motionOn touch
  simp [arrives.found, arrives.whole, arrives.consumed, up, started, sameDevice, isHoverOrButton]
  rfl

/-- A gesture is cancelled at its last position, wherever the cancellation happens. -/
theorem Arrives.motion_cancel (cancel : MotionAction.ofCode? sample.action = some .cancel)
    (handled : Bool) :
    router.motion tree sample handled =
      (do
        let amounts ← gesture.cancelAmounts
        pure (router.endGesture gesture sample.window sample.buttons amounts handled)) := by
  unfold Router.motion motionOn touch
  simp [arrives.found, arrives.whole, arrives.consumed, cancel, started, sameDevice,
    isHoverOrButton]

theorem Arrives.succeeds_cancel_iff
    (cancel : MotionAction.ofCode? sample.action = some .cancel) (handled : Bool) :
    Succeeds (router.motion tree sample handled) ↔ gesture.Cancelable := by
  rw [arrives.motion_cancel started sameDevice cancel handled, succeeds_bind]
  constructor
  · rintro ⟨amounts, isAmounts, -⟩
    exact ⟨amounts, Interruption.after_eq_ok_iff.mp isAmounts⟩
  · rintro ⟨amounts, isAmounts⟩
    exact ⟨amounts, Interruption.after_eq_ok_iff.mpr isAmounts, succeeds_ok _⟩

end Arrival

/-- A move succeeds together with the cancellation behind it exactly if it is within reach. -/
theorem Scrolls.succeeds_iff (scrolls : router.Scrolls tree sample node gesture)
    (handled handledNext : Bool) :
    (∃ routed, router.motion tree sample handled = .ok routed ∧
        Succeeds (routed.router.motion tree (cancelling sample) handledNext)) ↔
      gesture.Reaches (position node sample tree.dpiScale).1
        (position node sample tree.dpiScale).2 := by
  rw [Gesture.reaches_iff, scrolls.motion handled]
  have cancels : ∀ next : Router, next.gestures.get? sample.window =
        some (gesture.movedTo (position node sample tree.dpiScale).1
          (position node sample tree.dpiScale).2) →
      (Succeeds (next.motion tree (cancelling sample) handledNext) ↔
        (gesture.movedTo (position node sample tree.dpiScale).1
          (position node sample tree.dpiScale).2).Cancelable) := by
    intro next started
    have arrives : Arrives tree (cancelling sample) node :=
      ⟨scrolls.found, scrolls.whole, scrolls.consumed⟩
    exact arrives.succeeds_cancel_iff started scrolls.sameDevice
      (MotionAction.ofCode?_code .cancel) handledNext
  have inserted : ∀ after, (router.gestures.insert sample.window after).get? sample.window =
      some after := fun after => by rw [Table.get?_insert, if_pos rfl]
  constructor
  · rintro ⟨routed, moved, cancelled⟩
    obtain ⟨amounts, isAmounts, rest⟩ := bind_eq_ok.mp moved
    cases rest
    exact ⟨⟨amounts, Interruption.after_eq_ok_iff.mp isAmounts⟩,
      (cancels _ (inserted _)).mp cancelled⟩
  · rintro ⟨⟨amounts, isAmounts⟩, cancelable⟩
    exact ⟨_, bind_eq_ok.mpr ⟨amounts, Interruption.after_eq_ok_iff.mpr isAmounts, rfl⟩,
      (cancels _ (inserted _)).mpr cancelable⟩

end Router

end WindowRelay
