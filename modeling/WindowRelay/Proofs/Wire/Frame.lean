import Mathlib.Algebra.Group.Nat.Defs
import WindowRelay.Wire.Frame

/-!
Contract: the length in front of a payload.

Owns:
- the length bytes give the length of a payload just if that is admitted;
- what it means that a peer gets a message out of a frame.
-/

namespace WindowRelay

namespace Wire

theorem frame_eq (payload : List UInt8) :
    frame payload =
      UInt8.ofNat (payload.length >>> 24) :: UInt8.ofNat (payload.length >>> 16) ::
        UInt8.ofNat (payload.length >>> 8) :: UInt8.ofNat payload.length :: payload := rfl

/-- What four bytes hold is the length modulo their range. -/
theorem payloadLength_lengthBytes (length : Nat) :
    payloadLength (UInt8.ofNat (length >>> 24)) (UInt8.ofNat (length >>> 16))
        (UInt8.ofNat (length >>> 8)) (UInt8.ofNat length) =
      if largestPayload < length % 2 ^ 32 then .error ⟨length % 2 ^ 32⟩
      else .ok (length % 2 ^ 32) := by
  have joined :
      (UInt8.ofNat (length >>> 24)).toNat <<< 24 + (UInt8.ofNat (length >>> 16)).toNat <<< 16 +
        (UInt8.ofNat (length >>> 8)).toNat <<< 8 + (UInt8.ofNat length).toNat =
          length % 2 ^ 32 := by
    simp only [UInt8.toNat_ofNat', Nat.shiftRight_eq_div_pow, Nat.shiftLeft_eq]
    omega
  simp only [payloadLength, joined]

/-- A peer admits a frame, with the length of its payload, just if the payload is not too long. A
longer length is refused, or read as another one. -/
theorem payloadLength_lengthBytes_eq_ok_iff {length : Nat} :
    payloadLength (UInt8.ofNat (length >>> 24)) (UInt8.ofNat (length >>> 16))
        (UInt8.ofNat (length >>> 8)) (UInt8.ofNat length) = .ok length ↔
      length ≤ largestPayload := by
  have bound : largestPayload < 2 ^ 32 := by decide
  rw [payloadLength_lengthBytes]
  constructor
  -- A length beyond the range of four bytes wraps, so what is read differs from it.
  · intro admitted
    split at admitted
    · cases admitted
    · have same : length % 2 ^ 32 = length := Except.ok.inj admitted
      omega
  · intro small
    have same : length % 2 ^ 32 = length := Nat.mod_eq_of_lt (by omega)
    rw [same, if_neg (by omega)]

/-- A peer that reads the four length bytes of a frame admits them, with the exact length of what
follows, and decodes what follows to a message. -/
def ComesThrough {α : Type} (decode : List UInt8 → Option α) (stream : List UInt8)
    (message : α) : Prop :=
  ∃ first second third fourth payload,
    stream = first :: second :: third :: fourth :: payload ∧
      payloadLength first second third fourth = .ok payload.length ∧
      decode payload = some message

theorem comesThrough_frame_iff {α : Type} {decode : List UInt8 → Option α}
    {payload : List UInt8} {message : α} :
    ComesThrough decode (frame payload) message ↔
      payload.length ≤ largestPayload ∧ decode payload = some message := by
  rw [ComesThrough, frame_eq, ← payloadLength_lengthBytes_eq_ok_iff]
  constructor
  · rintro ⟨first, second, third, fourth, rest, same, admitted, decoded⟩
    cases same
    exact ⟨admitted, decoded⟩
  · rintro ⟨admitted, decoded⟩
    exact ⟨_, _, _, _, _, rfl, admitted, decoded⟩

end Wire

end WindowRelay
