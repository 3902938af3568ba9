import WindowRelay.Wire.Frame
import WindowRelay.Wire.Inbound

/-!
Contract: reading the messages of one peer from its stream of bytes.

Owns:
- the loop that takes frames, decodes them and hands the messages over;
- why the loop ends.

A payload that is no message is passed over. How messages are handed over is a parameter.
-/

namespace WindowRelay

namespace Wire

/-- Why no more is read from a peer. -/
inductive Ending where
  /-- the stream ended, perhaps inside a frame -/
  | streamEnded
  /-- a frame claimed to be too large -/
  | oversized (fault : Oversized)
  /-- nobody takes messages any more -/
  | refused
deriving DecidableEq, Repr

/-- Hand over the messages of a stream, as long as they are taken. -/
def relayAll (deliver : σ → Inbound → σ × Bool) (state : σ) (stream : List UInt8) : σ × Ending :=
  match taken : next stream with
  | .ended => (state, .streamEnded)
  | .oversized fault => (state, .oversized fault)
  | .frame payload rest =>
    have : rest.length < stream.length := length_lt_of_next taken
    match decodeInbound? payload with
    | none => relayAll deliver state rest
    | some message =>
      let (after, accepted) := deliver state message
      if accepted then relayAll deliver after rest else (after, .refused)
termination_by stream.length

end Wire

end WindowRelay
