/-!
Contract: payloads with their length in front, and the frames in a stream of bytes.

Owns:
- the four length bytes, most significant first, and the largest admitted length;
- framing a payload, and taking the next frame from a stream.

Does not own: what a payload says (`Wire.Inbound`, `Wire.Call`).
-/

namespace WindowRelay

namespace Wire

/-- Longer payloads are taken for a broken peer. -/
def largestPayload : Nat := 1024 * 1024

/-- A length that is not admitted. -/
structure Oversized where
  length : Nat
deriving DecidableEq, Repr

def Oversized.message (oversized : Oversized) : String :=
  "frame too large: " ++ toString oversized.length ++ " bytes"

/-- The length bytes of a payload; a length that needs more than four wraps. -/
def lengthBytes (length : Nat) : List UInt8 :=
  [UInt8.ofNat (length >>> 24), UInt8.ofNat (length >>> 16), UInt8.ofNat (length >>> 8),
    UInt8.ofNat length]

/-- The length that four bytes give, if it is admitted. -/
def payloadLength (first second third fourth : UInt8) : Except Oversized Nat :=
  let length :=
    first.toNat <<< 24 + second.toNat <<< 16 + third.toNat <<< 8 + fourth.toNat
  if largestPayload < length then .error ⟨length⟩ else .ok length

/-- A payload behind its length. -/
def frame (payload : List UInt8) : List UInt8 :=
  lengthBytes payload.length ++ payload

/-- What a stream begins with. -/
inductive Next where
  | frame (payload rest : List UInt8)
  /-- the stream ends before a frame does -/
  | ended
  | oversized (fault : Oversized)
deriving DecidableEq, Repr

/-- Take the next frame from a stream. -/
def next : List UInt8 → Next
  | first :: second :: third :: fourth :: bytes =>
    match payloadLength first second third fourth with
    | .error fault => .oversized fault
    | .ok length =>
      if length ≤ bytes.length then .frame (bytes.take length) (bytes.drop length) else .ended
  | _ => .ended

/-- A frame takes its length bytes from the stream. -/
theorem length_lt_of_next {stream payload rest : List UInt8}
    (taken : next stream = .frame payload rest) : rest.length < stream.length := by
  unfold next at taken
  split at taken
  · split at taken
    · cases taken
    · split at taken
      · cases taken
        simp only [List.length_drop, List.length_cons]
        omega
      · cases taken
  · cases taken

end Wire

end WindowRelay
