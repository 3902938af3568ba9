/-!
Contract: the action codes of pointer and key events.

Owns:
- the actions, their codes, and the reading of a code.

A motion code carries its action in the low eight bits; a key code is the action alone.
-/

namespace WindowRelay

/-- What a pointer did. -/
inductive MotionAction where
  | down
  | up
  | move
  | cancel
  | outside
  | pointerDown
  | pointerUp
  | hoverMove
  | scroll
  | hoverEnter
  | hoverExit
  | buttonPress
  | buttonRelease
deriving DecidableEq, Repr

namespace MotionAction

/-- All actions, in the order of their codes. -/
def all : List MotionAction :=
  [down, up, move, cancel, outside, pointerDown, pointerUp, hoverMove, scroll, hoverEnter,
    hoverExit, buttonPress, buttonRelease]

def code (action : MotionAction) : UInt32 :=
  UInt32.ofNat (all.idxOf action)

def ofCode? (code : UInt32) : Option MotionAction :=
  all[(code &&& 0xff).toNat]?

theorem ofCode?_code (action : MotionAction) : ofCode? action.code = some action := by
  cases action <;> rfl

end MotionAction

/-- What a key did. -/
inductive KeyAction where
  | down
  | up
  | multiple
deriving DecidableEq, Repr

namespace KeyAction

/-- All actions, in the order of their codes. -/
def all : List KeyAction := [down, up, multiple]

def code (action : KeyAction) : UInt32 :=
  UInt32.ofNat (all.idxOf action)

def ofCode? (code : UInt32) : Option KeyAction :=
  all[code.toNat]?

end KeyAction

end WindowRelay
