import WindowRelay.Window.Error

/-!
Contract: the log lines that report an order of windows or a dropped event.

Owns:
- one constructor per line, its level and its text.

Lines tell what happened and decide nothing.
-/

namespace WindowRelay

/-- How a window is marked in the report of the top-level order. -/
structure OrderMark where
  id : WindowId
  hidden : Bool
  minimized : Bool
  topmost : Bool
deriving DecidableEq, Repr

/-- A line of the log. -/
inductive Notice where
  /-- a stacking reference is not a top-level window -/
  | unresolvedReference (id : WindowId)
  /-- the top-level order, back to front -/
  | topLevelOrder (marks : List OrderMark)
  /-- the children of a window, back to front, each with its visibility -/
  | childOrder (parent : WindowId) (children : List (WindowId × Bool))
  /-- the views in a client container after one was attached -/
  | attached (parent : WindowId) (views : List WindowId)
  /-- the views in a client container after they were put in order -/
  | aligned (parent : WindowId) (views : List WindowId)
  /-- an event was dropped -/
  | dropped (error : WindowError)
deriving DecidableEq, Repr

/-- The level of a log line. -/
inductive Level where
  | debug
  | warn
deriving DecidableEq, Repr

def Level.text : Level → String
  | .debug => "debug"
  | .warn => "warn"

def OrderMark.text (mark : OrderMark) : String :=
  " " ++ mark.id.text ++ (if mark.hidden then " (hidden)" else "") ++
    (if mark.minimized then " (minimized)" else "") ++ (if mark.topmost then " (topmost)" else "")

namespace Notice

/-- Only an event dropped for another reason than an unknown reference is a warning. -/
def level : Notice → Level
  | dropped error => if error.isUnknownReference then .debug else .warn
  | _ => .debug

/-- The text of a line. The top-level order is written front to back. -/
def text : Notice → String
  | unresolvedReference id =>
    "Stack reference " ++ id.text ++ " not a top-level window, using bottom"
  | topLevelOrder marks => "z-order:" ++ String.join (marks.reverse.map OrderMark.text)
  | childOrder parent children =>
    "new z-order in parent " ++ parent.text ++ ":" ++
      String.join (children.map fun child =>
        if child.2 then " " ++ child.1.text else " (" ++ child.1.text ++ ")")
  | attached parent views =>
    "after adding views z-order in parent " ++ parent.text ++ ": " ++
      String.intercalate " " (views.map WindowId.text)
  | aligned parent views =>
    "synced views z-order in parent " ++ parent.text ++ ": " ++
      String.intercalate " " (views.map WindowId.text)
  | dropped error => "Dropped event: " ++ error.message

/-- A line with its level in front. -/
def line (notice : Notice) : String :=
  notice.level.text ++ " " ++ notice.text

end Notice

end WindowRelay
