import WindowRelay.Window.Id

/-!
Contract: the reasons for which a window event is dropped.

Owns:
- one constructor per reason, its text, and whether it is an unknown reference.
-/

namespace WindowRelay

/-- Why a window cannot be put where it was asked to go. -/
inductive Misplacement where
  | reservedId
  | desktopIsFixed
  | ownParent
  | underDescendant
deriving DecidableEq, Repr

def Misplacement.text : Misplacement → String
  | .reservedId => "window id 0 is reserved"
  | .desktopIsFixed => "the desktop window cannot be reparented"
  | .ownParent => "a window cannot be its own parent"
  | .underDescendant => "the new parent is a descendant"

/-- Why an event about a window is dropped. -/
inductive WindowError where
  | alreadyExists (id : WindowId)
  | unknownWindow (id : WindowId)
  | unknownParent (id parent : WindowId)
  | unknownTarget (id : WindowId)
  | misplaced (id parent : WindowId) (reason : Misplacement)
  | selfReference (id : WindowId)
  | invalidIcon (id : WindowId) (width height : UInt32) (pixels : Nat)
  | invalidCursor (width height : UInt32) (pixels : Nat)
  | desktopAlreadyCreated
deriving DecidableEq, Repr

namespace WindowError

def message : WindowError → String
  | alreadyExists id => "window " ++ id.text ++ " already exists"
  | unknownWindow id => "unknown window " ++ id.text
  | unknownParent id parent =>
    "parent " ++ parent.text ++ " of window " ++ id.text ++ " does not exist"
  | unknownTarget id => "reparent target " ++ id.text ++ " does not exist"
  | misplaced id parent reason =>
    "cannot move window " ++ id.text ++ " under " ++ parent.text ++ ": " ++ reason.text
  | selfReference id => "window " ++ id.text ++ " cannot be stacked after itself"
  | invalidIcon id width height pixels =>
    "icon for window " ++ id.text ++ " is " ++ toString width.toNat ++ "x" ++
      toString height.toNat ++ " but has " ++ toString pixels ++ " pixels"
  | invalidCursor width height pixels =>
    "cursor image " ++ toString width.toNat ++ "x" ++ toString height.toNat ++ " has " ++
      toString pixels ++ " pixels"
  | desktopAlreadyCreated => "desktop window already created"

/-- The window manager and the tree can briefly disagree about which windows exist, so these
reasons are expected. -/
def isUnknownReference : WindowError → Bool
  | unknownWindow _ | unknownParent _ _ | unknownTarget _ => true
  | _ => false

end WindowError

end WindowRelay
