import WindowRelay.Window.Id

/-!
Contract: stacking directives and their effect on a list of windows.

Owns:
- the directives and how they are read from a position change;
- the effect of a directive on the top-level order and on the topmost flag of the window;
- the effect of a directive on the children of a window.

All lists are ordered back to front. In the top-level order the topmost windows form the front
suffix, the topmost band; `boundary` is where it starts.

Does not own: nodes, host containers (`Tree.Basic`, `Scene.Command`).
-/

namespace WindowRelay

/-- Where a window is to go among its siblings. -/
inductive Directive where
  | top
  | bottom
  | topmost
  | noTopmost
  /-- directly in front of the referenced window -/
  | after (reference : WindowId)
deriving DecidableEq, Repr

namespace Directive

/-- Four values name a place; every other value names a window. -/
def ofInsertAfter (insertAfter : UInt32) : Directive :=
  if insertAfter = 0 then top
  else if insertAfter = 1 then bottom
  else if insertAfter = 0xffffffff then topmost
  else if insertAfter = 0xfffffffe then noTopmost
  else after insertAfter

/-- A reference that is not in the order degrades to the back of the list. -/
def resolve (directive : Directive) (order : List WindowId) : Directive :=
  match directive with
  | after reference => if reference ∈ order then after reference else bottom
  | other => other

/-- The topmost flag that a top-level window has after a directive. -/
def flagAfter : Directive → Bool → Bool
  | top, flag => flag
  | bottom, _ => false
  | topmost, _ => true
  | noTopmost, _ => false
  | after _, flag => flag

end Directive

namespace Stacking

/-- The list without a window. -/
def without (order : List WindowId) (window : WindowId) : List WindowId :=
  order.filter (· != window)

/-- The first index of the topmost band. -/
def boundary (isTopmost : WindowId → Bool) (order : List WindowId) : Nat :=
  order.findIdx isTopmost

/-- The index directly in front of a window, the back of the list if it is not there. -/
def inFrontOf (order : List WindowId) (reference : WindowId) : Nat :=
  match order.idxOf? reference with
  | some index => index + 1
  | none => 0

/-- The top-level order after a directive for `window`. A window stays inside its own band unless
the directive moves it to the other one. -/
def restacked (isTopmost : WindowId → Bool) (order : List WindowId) (window : WindowId)
    (directive : Directive) : List WindowId :=
  let rest := without order window
  match directive with
  | .bottom => window :: rest
  | .top =>
    if isTopmost window then order else rest.insertIdx (boundary isTopmost rest) window
  | .topmost => rest ++ [window]
  | .noTopmost =>
    if isTopmost window then rest.insertIdx (boundary isTopmost rest) window else order
  | .after reference =>
    let wanted := inFrontOf rest reference
    let start := boundary isTopmost rest
    rest.insertIdx (if isTopmost window then max wanted start else min wanted start) window

/-- The children of a window after a directive for one of them; there are no bands here. -/
def restackedChildren (children : List WindowId) (window : WindowId) (directive : Directive) :
    List WindowId :=
  let rest := without children window
  match directive with
  | .bottom => window :: rest
  | .top | .topmost | .noTopmost => rest ++ [window]
  | .after reference => rest.insertIdx (inFrontOf rest reference) window

/-- A new top-level window starts at the back, unless it is listed already. -/
def added (order : List WindowId) (window : WindowId) : List WindowId :=
  if window ∈ order then order else window :: order

end Stacking

end WindowRelay
