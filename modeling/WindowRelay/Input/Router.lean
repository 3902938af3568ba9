import WindowRelay.Input.Action
import WindowRelay.Input.Gesture
import WindowRelay.Input.Sample
import WindowRelay.Message.Interruption
import WindowRelay.Tree.Basic

/-!
Contract: routing of pointer and key events to the window manager.

Owns:
- which events a window consumes, and where on the desktop they happen;
- wheel, joystick, touchpad gestures and plain pointer events;
- keys and gamepad buttons.

Only the whole view of a top-level window and the desktop view consume pointer events. The answer
of the window manager to a pointer or key call is the same for every call of one event and is
passed in as `handled`.

Does not own: text input (`Input.Composition`), enumeration of gamepads (`Input.Gamepads`).
-/

namespace WindowRelay

/-- The scrolls in progress, one per window, and how wheels are reported. -/
structure Router where
  gestures : Table Gesture := ∅
  /-- the scroll amount of one wheel notch -/
  wheelStep : Int32 := 120
  /-- the bits that mark a horizontal scroll in an action -/
  horizontalFlag : UInt32 := 0x10000
deriving DecidableEq

/-- What routing an event gives: the router afterwards, the calls, and whether it was consumed. -/
structure Routed where
  router : Router
  calls : List Call := []
  handled : Bool
deriving DecidableEq

namespace Router

/-- The value of a pressed gamepad button. -/
def pressedButton : UInt32 := 0xff

/-- Drop the scroll on a window. -/
def forget (router : Router) (window : WindowId) : Router :=
  { router with gestures := router.gestures.erase window }

def hasGesture (router : Router) (window : WindowId) : Bool :=
  router.gestures.contains window

/-- Whether a window consumes pointer events of its whole view. -/
def consumes (node : Node) : Bool :=
  node.isTopLevel || node.kind == .desktop

/-- The position of an event on the desktop. In a top-level window it is the position in the view
plus the logical origin of the window, which ignores any parking off the screen. -/
def position (node : Node) (sample : MotionSample) (dpiScale : Binary32) :
    Coordinate × Coordinate :=
  if node.isTopLevel then
    ((sample.x.add (Binary32.ofInt node.visibleRect.left.toInt)).roundToCoordinate,
      (sample.y.add (Binary32.ofInt node.visibleRect.top.toInt)).roundToCoordinate)
  else
    ((sample.rawX.div dpiScale).roundToCoordinate, (sample.rawY.div dpiScale).roundToCoordinate)

/-! ## Wheel and joystick -/

/-- The call of a wheel that turned vertically: one notch. -/
def verticalWheelCalls (router : Router) (sample : MotionSample) (x y : Coordinate) :
    Except Overflow (List Call) := do
  let turned := sample.verticalScroll.truncateToCoordinate
  if turned = 0 then pure []
  else
    let amount ← if turned < 0 then Coordinate.neg router.wheelStep else pure router.wheelStep
    pure [.motion sample.window sample.action x y sample.buttons amount]

/-- The call of a wheel that turned horizontally: one notch, the other way round. -/
def horizontalWheelCalls (router : Router) (sample : MotionSample) (x y : Coordinate) :
    Except Overflow (List Call) := do
  let turned := sample.horizontalScroll.truncateToCoordinate
  if turned = 0 then pure []
  else
    let amount ← if turned < 0 then pure router.wheelStep else Coordinate.neg router.wheelStep
    pure [.motion sample.window (sample.action ||| router.horizontalFlag) x y sample.buttons amount]

/-- The calls of a wheel event, the vertical one first. -/
def wheelCalls (router : Router) (sample : MotionSample) (x y : Coordinate) :
    Except Interruption (List Call) := do
  let vertical ← router.verticalWheelCalls sample x y
  let horizontal ← Interruption.after vertical (router.horizontalWheelCalls sample x y)
  pure (vertical ++ horizontal)

/-- The value of an axis, zero inside its flat range or when it was not read. -/
def centered (readings : List AxisReading) (axis : JoystickAxis) : Binary32 :=
  match readings.find? (·.axis == axis) with
  | some reading => if reading.flat.lt reading.value.abs then reading.value else Binary32.zero
  | none => Binary32.zero

/-- The value of the first of two axes that is not at rest. -/
def either (readings : List AxisReading) (primary fallback : JoystickAxis) : Binary32 :=
  let value := centered readings primary
  if value.isZero then centered readings fallback else value

def joystickAxes (readings : List AxisReading) : GamepadAxes where
  x := centered readings .x
  y := centered readings .y
  z := centered readings .z
  rx := centered readings .rx
  ry := centered readings .ry
  rz := centered readings .rz
  leftTrigger := either readings .leftTrigger .brake
  rightTrigger := either readings .rightTrigger .gas
  hatX := centered readings .hatX
  hatY := centered readings .hatY

/-! ## Touch -/

/-- The scroll calls of a gesture, anchored at its origin; an axis that did not move gives none. -/
def scrollCalls (router : Router) (gesture : Gesture) (window : WindowId) (buttons : UInt32)
    (amounts : Coordinate × Coordinate) : List Call :=
  let scroll := MotionAction.scroll.code
  (if amounts.1 = 0 then []
    else [.motion window (scroll ||| router.horizontalFlag) gesture.originX gesture.originY buttons
      amounts.1]) ++
  (if amounts.2 = 0 then []
    else [.motion window scroll gesture.originX gesture.originY buttons amounts.2])

/-- The end of a gesture: the pointer goes back to its origin, and no button goes up since none
went down. -/
def endGesture (router : Router) (gesture : Gesture) (window : WindowId) (buttons : UInt32)
    (amounts : Coordinate × Coordinate) (handled : Bool) : Routed where
  router := router.forget window
  calls := router.scrollCalls gesture window buttons amounts ++
    [.motion window MotionAction.hoverMove.code gesture.originX gesture.originY buttons 0]
  handled

/-- A pointer event that is passed on as it is. -/
def plain (router : Router) (sample : MotionSample) (x y : Coordinate) (handled : Bool) :
    Routed where
  router
  calls := [.motion sample.window sample.action x y sample.buttons 0]
  handled

/-- A touch event. Going down on a mouse source without a button starts a scroll; until it ends,
moves of the same device on the same window scroll. -/
def touch (router : Router) (sample : MotionSample) (action : Option MotionAction)
    (x y : Coordinate) (handled : Bool) : Except Interruption Routed :=
  let window := sample.window
  let buttons := sample.buttons
  if (InputSource.mk sample.source).belongsTo InputSource.mouse && buttons == 0 &&
      action == some .down then
    pure
      { router :=
          { router with
            gestures := router.gestures.insert window (Gesture.startingAt sample.device x y) }
        calls := [.motion window MotionAction.hoverMove.code x y buttons 0]
        handled }
  else
    match router.gestures.get? window with
    | none => pure (router.plain sample x y handled)
    | some gesture =>
      if gesture.device != sample.device then pure (router.plain sample x y handled)
      else
        match action with
        | some .move => do
          let amounts ← gesture.moveAmounts x y
          pure
            { router :=
                { router with gestures := router.gestures.insert window (gesture.movedTo x y) }
              calls := router.scrollCalls gesture window buttons amounts
              handled := true }
        | some .up => pure (router.endGesture gesture window buttons (0, 0) handled)
        | some .cancel => do
          let amounts ← gesture.cancelAmounts
          pure (router.endGesture gesture window buttons amounts handled)
        | _ => pure (router.plain sample x y handled)

/-! ## Events -/

/-- Hovering and buttons reach the window manager from pointer sources only. -/
def isHoverOrButton : MotionAction → Bool
  | .hoverMove | .hoverEnter | .hoverExit | .buttonPress | .buttonRelease => true
  | _ => false

/-- A motion event on a window that consumes it. -/
def motionOn (router : Router) (node : Node) (dpiScale : Binary32) (sample : MotionSample)
    (handled : Bool) : Except Interruption Routed :=
  let source : InputSource := ⟨sample.source⟩
  let action := MotionAction.ofCode? sample.action
  let (x, y) := position node sample dpiScale
  if source.belongsTo InputSource.joystick && action == some .move then
    pure
      { router
        calls := [.gamepadAxis sample.device (joystickAxes sample.axes)]
        handled := true }
  else if action == some .scroll && source.belongsTo InputSource.classPointer then do
    let calls ← router.wheelCalls sample x y
    pure { router, calls, handled := true }
  else if action.any isHoverOrButton then
    if source.belongsTo InputSource.classPointer then pure (router.plain sample x y handled)
    else pure { router, handled := false }
  else router.touch sample action x y handled

/-- Route a motion event. -/
def motion (router : Router) (tree : Tree) (sample : MotionSample) (handled : Bool) :
    Except Interruption Routed :=
  match tree.node? sample.window with
  | none => pure { router, handled := false }
  | some node =>
    if sample.client || !consumes node then pure { router, handled := false }
    else router.motionOn node tree.dpiScale sample handled

/-- The calls of a key event and whether it was consumed: keys of a gamepad going down or up are
buttons, all others are typed. -/
def key (sample : KeySample) (handled : Bool) : List Call × Bool :=
  let source : InputSource := ⟨sample.source⟩
  let typed :=
    ([Call.keyboard sample.window sample.action sample.keycode sample.metaState], handled)
  if source.belongsTo InputSource.gamepad then
    match KeyAction.ofCode? sample.action with
    | some .down => ([.gamepadButton sample.device sample.keycode pressedButton], true)
    | some .up => ([.gamepadButton sample.device sample.keycode 0], true)
    | _ => typed
  else typed

end Router

end WindowRelay
