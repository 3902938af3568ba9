/-!
Contract: the bit sets that accompany a window: style bits and position flags.

Owns:
- which bits are kept of what the window manager sends;
- the questions the other modules ask of them.
-/

namespace WindowRelay

/-- Every bit of `mask` is set in `bits`. -/
def coversBits (bits mask : UInt32) : Bool :=
  bits &&& mask == mask

/-- The style bits of a window. -/
structure Style where
  bits : UInt32
deriving DecidableEq, Repr

namespace Style

def visible : UInt32 := 0x10000000
def minimize : UInt32 := 0x20000000
def child : UInt32 := 0x40000000
def popup : UInt32 := 0x80000000

/-- The style of a window that has not been placed yet. -/
def empty : Style := ⟨0⟩

/-- The four tracked bits are kept; every other bit is noise here. -/
def ofRaw (raw : UInt32) : Style :=
  ⟨raw &&& (visible ||| minimize ||| child ||| popup)⟩

def isVisible (style : Style) : Bool :=
  coversBits style.bits visible

def isMinimized (style : Style) : Bool :=
  coversBits style.bits minimize

end Style

/-- The flags that accompany a position change. -/
structure PositionFlags where
  bits : UInt32
deriving DecidableEq, Repr

namespace PositionFlags

def noSize : UInt32 := 0x0001
def noMove : UInt32 := 0x0002
def noZOrder : UInt32 := 0x0004
def noActivate : UInt32 := 0x0010
def showWindow : UInt32 := 0x0040
def hideWindow : UInt32 := 0x0080

/-- The six known flags are kept; every other bit is dropped. -/
def ofRaw (raw : UInt32) : PositionFlags :=
  ⟨raw &&& (noSize ||| noMove ||| noZOrder ||| noActivate ||| showWindow ||| hideWindow)⟩

/-- The change carries a stacking directive. -/
def reorders (flags : PositionFlags) : Bool :=
  !coversBits flags.bits noZOrder

end PositionFlags

end WindowRelay
