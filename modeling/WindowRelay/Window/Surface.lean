/-!
Contract: the host backings that a window holds.

Owns:
- the two kinds of surface and the binding of a handle to a kind;
- what binding and releasing report.

A binding is a weak reference: the host owns the pixels, and only the handle is kept.
-/

namespace WindowRelay

namespace Surface

/-- Which of the two rendering targets of a window an event is about. -/
inductive Kind where
  /-- the full extent of the window -/
  | whole
  /-- its interior content area -/
  | client
deriving DecidableEq, Repr

def Kind.ofClientFlag (client : Bool) : Kind :=
  if client then .client else .whole

def Kind.isClient : Kind → Bool
  | .whole => false
  | .client => true

/-- A handle to a host backing. -/
abbrev Handle := UInt64

/-- Whether a backing that the host reports was already known. -/
inductive Outcome where
  | fresh
  | unchanged
deriving DecidableEq, Repr

/-- The handles bound to the two kinds of one window. -/
structure Slots where
  whole : Option Handle := none
  client : Option Handle := none
deriving DecidableEq, Repr

namespace Slots

def get (slots : Slots) : Kind → Option Handle
  | .whole => slots.whole
  | .client => slots.client

def set (slots : Slots) (kind : Kind) (handle : Option Handle) : Slots :=
  match kind with
  | .whole => { slots with whole := handle }
  | .client => { slots with client := handle }

/-- Bind a handle; reporting the bound handle again is no change. -/
def bind (slots : Slots) (kind : Kind) (handle : Handle) : Slots × Outcome :=
  if slots.get kind = some handle then (slots, .unchanged)
  else (slots.set kind (some handle), .fresh)

/-- Drop the binding of one kind; the answer is the handle that it held. -/
def release (slots : Slots) (kind : Kind) : Slots × Option Handle :=
  (slots.set kind none, slots.get kind)

/-- The kinds that hold a handle, whole first. -/
def bound (slots : Slots) : List Kind :=
  [Kind.whole, Kind.client].filter fun kind => (slots.get kind).isSome

/-- Drop both bindings; the answer lists the kinds that held a handle. -/
def releaseAll (slots : Slots) : Slots × List Kind :=
  ({}, slots.bound)

@[simp] theorem get_set_self (slots : Slots) (kind : Kind) (handle : Option Handle) :
    (slots.set kind handle).get kind = handle := by
  cases kind <;> rfl

theorem get_set_of_ne (slots : Slots) {kind other : Kind} (handle : Option Handle)
    (distinct : other ≠ kind) : (slots.set kind handle).get other = slots.get other := by
  cases kind <;> cases other <;> simp_all [set, get]

/-- Whatever was bound before, the handle is bound afterwards. -/
@[simp] theorem get_bind_self (slots : Slots) (kind : Kind) (handle : Handle) :
    (slots.bind kind handle).1.get kind = some handle := by
  unfold bind
  split <;> simp_all

theorem get_bind_of_ne (slots : Slots) {kind other : Kind} (handle : Handle)
    (distinct : other ≠ kind) : (slots.bind kind handle).1.get other = slots.get other := by
  unfold bind
  split
  · rfl
  · exact get_set_of_ne slots (some handle) distinct

end Slots

end Surface

end WindowRelay
