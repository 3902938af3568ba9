import WindowRelay.Message.Interruption
import WindowRelay.Tree.Basic

/-!
Contract: what an event about windows does, as one value.

Owns:
- the change that an event makes: the new tree, the commands to the host, the calls into the
  window manager and the lines of the log, each in order;
- the two ways in which an event fails.

A failed event has no change at all: whoever applies it keeps the tree and the scene. Calls that
an interrupted event has sent are part of its failure.
-/

namespace WindowRelay

/-- Why an event has no change. -/
inductive Failure where
  /-- the event is dropped -/
  | refused (error : WindowError)
  /-- a layout left the coordinates, and the session ends -/
  | interrupted (interruption : Interruption)
deriving DecidableEq, Repr

instance : MonadLift (Except Interruption) (Except Failure) :=
  ⟨Except.mapError Failure.interrupted⟩

instance : MonadLift (Except WindowError) (Except Failure) := ⟨Except.mapError Failure.refused⟩

/-- What an event does. -/
structure Change where
  tree : Tree
  commands : List Scene.Command := []
  calls : List Call := []
  notices : List Notice := []

namespace Change

/-- One change after another; the second one starts from the tree of the first. -/
def followedBy (first : Change) (next : Tree → Change) : Change :=
  let second := next first.tree
  { tree := second.tree
    commands := first.commands ++ second.commands
    calls := first.calls ++ second.calls
    notices := first.notices ++ second.notices }

/-- Announce the front title at the end of a change. -/
def announcing (change : Change) : Change :=
  { change with
    tree := change.tree.announce
    commands := change.commands ++ change.tree.announceCommands }

end Change

/-- The calls that tell the window manager that bound surfaces of a window are gone. -/
def releaseCalls (node : Node) : List Call :=
  node.surfaces.bound.map fun kind => .surfaceChanged node.id none kind.isClient

end WindowRelay
