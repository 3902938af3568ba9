import Mathlib.Data.List.Basic
import WindowRelay.Proofs.Wire.Messages
import WindowRelay.Wire.Peer

/-!
Contract: what is handed over of the bytes that a peer sends.

Owns:
- a frame in front of a stream is taken as it is, and nothing of what follows it;
- every stream is frames that are admitted, and behind them one that stops within a frame or claims
  too much;
- handing over a list of messages until one is not taken;
- reading a stream is handing over the messages among the payloads of its frames, in order.

Does not own: what messages say, and who takes them (`Session.Service`).
-/

namespace WindowRelay

namespace Wire

universe u

/-! ## The next frame -/

section Next

variable {payload rest stream tail bytes : List UInt8} {length : Nat}

/-- What follows four length bytes decides whether a frame is taken. -/
theorem next_lengthBytes_append (fits : length < 2 ^ 32) (bytes : List UInt8) :
    next (lengthBytes length ++ bytes) =
      if largestPayload < length then .oversized ⟨length⟩
      else if length ≤ bytes.length then .frame (bytes.take length) (bytes.drop length)
      else .ended := by
  have read := payloadLength_lengthBytes length
  rw [Nat.mod_eq_of_lt fits] at read
  show next (_ :: _ :: _ :: _ :: bytes) = _
  unfold next
  simp only [read]
  by_cases tooLong : largestPayload < length
  · simp only [if_pos tooLong]
  · simp only [if_neg tooLong]

theorem next_frame_append (small : payload.length ≤ largestPayload) (rest : List UInt8) :
    next (frame payload ++ rest) = .frame payload rest := by
  have fits : payload.length < 2 ^ 32 := Nat.lt_of_le_of_lt small (by decide)
  rw [frame, List.append_assoc, next_lengthBytes_append fits, if_neg (Nat.not_lt_of_le small),
    if_pos (by rw [List.length_append]; omega), List.take_left, List.drop_left]

/-- A stream that stops within a frame, or that claims a length that is not admitted. -/
def Unfinished (tail : List UInt8) : Prop :=
  (∃ payload : List UInt8, payload.length < 2 ^ 32 ∧ tail <+: frame payload ∧
      tail ≠ frame payload) ∨
    ∃ length bytes, largestPayload < length ∧ length < 2 ^ 32 ∧ tail = lengthBytes length ++ bytes

theorem next_of_short (short : tail.length < 4) : next tail = .ended := by
  match tail with
  | [] | [_] | [_, _] | [_, _, _] => rfl
  | _ :: _ :: _ :: _ :: _ =>
      simp only [List.length_cons] at short
      omega

theorem Unfinished.next (unfinished : Unfinished tail) :
    next tail = .ended ∨ ∃ fault, next tail = .oversized fault := by
  rcases unfinished with ⟨payload, fits, begins, proper⟩ | ⟨length, bytes, tooLong, fits, rfl⟩
  · by_cases short : tail.length < 4
    · exact .inl (next_of_short short)
    · obtain ⟨bytes, rfl⟩ : lengthBytes payload.length <+: tail :=
        List.prefix_of_prefix_length_le (List.prefix_append _ payload) begins
          (Nat.le_of_not_lt short)
      have cut : bytes <+: payload := (List.prefix_append_right_inj _).mp begins
      have shorter : bytes.length < payload.length :=
        Nat.lt_of_le_of_ne cut.length_le fun same => proper (by rw [cut.eq_of_length same, frame])
      rw [next_lengthBytes_append fits, if_neg (Nat.not_le_of_lt shorter)]
      split
      · exact .inr ⟨_, rfl⟩
      · exact .inl rfl
  · rw [next_lengthBytes_append fits, if_pos tooLong]
    exact .inr ⟨_, rfl⟩

/-! ## Every stream -/

/-- Any four bytes are the length bytes of a length. -/
theorem exists_lengthBytes (four : bytes.length = 4) :
    ∃ length, length < 2 ^ 32 ∧ bytes = lengthBytes length := by
  obtain ⟨first, second, third, fourth, rfl⟩ := List.length_eq_four.mp four
  have bounds := And.intro first.toNat_lt (And.intro second.toNat_lt
    (And.intro third.toNat_lt fourth.toNat_lt))
  refine ⟨first.toNat * 2 ^ 24 + second.toNat * 2 ^ 16 + third.toNat * 2 ^ 8 + fourth.toNat,
    by omega, ?_⟩
  unfold lengthBytes
  simp only [Nat.shiftRight_eq_div_pow, List.cons.injEq, and_true, ← UInt8.toNat_inj,
    UInt8.toNat_ofNat']
  omega

theorem unfinished_of_cut (fits : length < 2 ^ 32) (cut : bytes.length < length) :
    Unfinished (lengthBytes length ++ bytes) := by
  have filled : (bytes ++ List.replicate (length - bytes.length) 0).length = length := by
    rw [List.length_append, List.length_replicate]
    omega
  refine .inl ⟨bytes ++ List.replicate (length - bytes.length) 0, filled.symm ▸ fits, ?_, ?_⟩
  · rw [frame, filled, ← List.append_assoc]
    exact List.prefix_append _ _
  · intro same
    have sameLength := congrArg List.length same
    rw [frame, filled, List.length_append, List.length_append, filled] at sameLength
    omega

theorem unfinished_of_short (short : tail.length < 4) : Unfinished tail := by
  have filled : (tail ++ List.replicate (4 - tail.length) 0).length = 4 := by
    rw [List.length_append, List.length_replicate]
    omega
  obtain ⟨length, fits, same⟩ := exists_lengthBytes filled
  refine .inl ⟨List.replicate length 0, by rwa [List.length_replicate], ?_, ?_⟩
  · rw [frame, List.length_replicate, ← same, List.append_assoc]
    exact List.prefix_append _ _
  · intro whole
    rw [whole, frame, List.length_append] at short
    exact absurd short (by simp [lengthBytes])

/-- Every stream is frames that are admitted, and behind them an unfinished one. -/
theorem exists_frames_append (stream : List UInt8) :
    ∃ (payloads : List (List UInt8)) (tail : List UInt8),
      (∀ payload ∈ payloads, payload.length ≤ largestPayload) ∧ Unfinished tail ∧
        stream = payloads.flatMap frame ++ tail := by
  by_cases short : stream.length < 4
  · exact ⟨[], stream, nofun, unfinished_of_short short, rfl⟩
  · obtain ⟨length, fits, begins⟩ := exists_lengthBytes
      (List.length_take_of_le (Nat.le_of_not_lt short))
    obtain ⟨bytes, parts⟩ : ∃ bytes, stream = lengthBytes length ++ bytes :=
      ⟨stream.drop 4, by rw [← begins, List.take_append_drop]⟩
    by_cases tooLong : largestPayload < length
    · exact ⟨[], stream, nofun, .inr ⟨length, bytes, tooLong, fits, parts⟩, rfl⟩
    · by_cases cut : bytes.length < length
      · exact ⟨[], stream, nofun, parts ▸ unfinished_of_cut fits cut, rfl⟩
      · obtain ⟨payloads, tail, small, unfinished, split⟩ :=
          exists_frames_append (bytes.drop length)
        have taken : (bytes.take length).length = length :=
          List.length_take_of_le (Nat.le_of_not_lt cut)
        refine ⟨bytes.take length :: payloads, tail, ?_, unfinished, ?_⟩
        · simpa [taken, Nat.le_of_not_lt tooLong] using small
        · rw [List.flatMap_cons, List.append_assoc, ← split, frame, taken, List.append_assoc,
            List.take_append_drop, parts]
termination_by stream.length
decreasing_by
  simp only [parts, lengthBytes, List.length_append, List.length_cons, List.length_drop]
  omega

end Next

/-! ## The loop -/

section Loop

variable {σ : Type u} {deliver : σ → Inbound → σ × Bool} {state middle final : σ}
  {payloads : List (List UInt8)} {payload rest stream tail : List UInt8}
  {messages before later : List Inbound} {message : Inbound}

/-- Hand over messages one after the other, until one is not taken. -/
def handOver (deliver : σ → Inbound → σ × Bool) (state : σ) : List Inbound → σ × Bool
  | [] => (state, true)
  | message :: later =>
    let (after, accepted) := deliver state message
    if accepted then handOver deliver after later else (after, false)

/-- Deliver messages, and write down which. -/
def recording (deliver : σ → Inbound → σ × Bool) (state : σ × List Inbound) (message : Inbound) :
    (σ × List Inbound) × Bool :=
  let (after, accepted) := deliver state.1 message
  ((after, state.2 ++ [message]), accepted)

theorem relayAll_frame_append (small : payload.length ≤ largestPayload) (rest : List UInt8) :
    relayAll deliver state (frame payload ++ rest) =
      match decodeInbound? payload with
      | none => relayAll deliver state rest
      | some message =>
        if (deliver state message).2 then relayAll deliver (deliver state message).1 rest
        else ((deliver state message).1, .refused) := by
  have first := next_frame_append small rest
  rw [relayAll]
  split
  · next ended => cases ended.symm.trans first
  · next oversized => cases oversized.symm.trans first
  · next taken =>
      cases taken.symm.trans first
      rfl

/-- The frames in front of a stream: their messages are handed over, and if all are taken the loop
goes on behind the frames. -/
theorem relayAll_frames_append (small : ∀ payload ∈ payloads, payload.length ≤ largestPayload)
    (tail : List UInt8) :
    relayAll deliver state (payloads.flatMap frame ++ tail) =
      if (handOver deliver state (payloads.filterMap decodeInbound?)).2 then
        relayAll deliver (handOver deliver state (payloads.filterMap decodeInbound?)).1 tail
      else ((handOver deliver state (payloads.filterMap decodeInbound?)).1, .refused) := by
  induction payloads generalizing state with
  | nil => rfl
  | cons payload payloads inductionHypothesis =>
      have smallFirst := small payload List.mem_cons_self
      have smallRest := fun other inRest => small other (List.mem_cons_of_mem payload inRest)
      rw [List.flatMap_cons, List.append_assoc, relayAll_frame_append smallFirst]
      cases decoded : decodeInbound? payload with
      | none =>
          rw [List.filterMap_cons_none decoded]
          exact inductionHypothesis smallRest
      | some message =>
          rw [List.filterMap_cons_some decoded, handOver]
          dsimp only
          split
          · exact inductionHypothesis smallRest
          · rfl

theorem relayAll_of_ended (ended : next stream = .ended) :
    relayAll deliver state stream = (state, .streamEnded) := by
  rw [relayAll]
  split
  · rfl
  · next oversized => cases oversized.symm.trans ended
  · next taken => cases taken.symm.trans ended

theorem relayAll_of_oversized {fault : Oversized} (oversized : next stream = .oversized fault) :
    relayAll deliver state stream = (state, .oversized fault) := by
  rw [relayAll]
  split
  · next ended => cases ended.symm.trans oversized
  · next same =>
      cases same.symm.trans oversized
      rfl
  · next taken => cases taken.symm.trans oversized

/-- Where a stream begins with no frame, the loop ends whoever takes the messages. -/
theorem relayAll_unfinished (unfinished : Unfinished tail) :
    ∃ ending, ending ≠ .refused ∧
      ∀ {σ : Type u} (deliver : σ → Inbound → σ × Bool) (state : σ),
        relayAll deliver state tail = (state, ending) := by
  rcases unfinished.next with ended | ⟨fault, oversized⟩
  · exact ⟨.streamEnded, nofun, fun _ _ => relayAll_of_ended ended⟩
  · exact ⟨.oversized fault, nofun, fun _ _ => relayAll_of_oversized oversized⟩

theorem handOver_append (taken : handOver deliver state before = (middle, true))
    (later : List Inbound) :
    handOver deliver state (before ++ later) = handOver deliver middle later := by
  induction before generalizing state with
  | nil =>
      cases taken
      rfl
  | cons first rest inductionHypothesis =>
      rw [List.cons_append, handOver]
      rw [handOver] at taken
      dsimp only at taken ⊢
      split at taken
      · next accepted =>
          rw [if_pos accepted]
          exact inductionHypothesis taken
      · cases taken

/-- Nothing is handed over behind a message that is not taken. -/
theorem handOver_cons_of_refused (notTaken : deliver state message = (final, false))
    (later : List Inbound) : handOver deliver state (message :: later) = (final, false) := by
  rw [handOver, notTaken]
  rfl

/-- All messages are taken, or there is a first one that is not. -/
theorem handOver_cases (deliver : σ → Inbound → σ × Bool) (state : σ) (messages : List Inbound) :
    (∃ final, handOver deliver state messages = (final, true)) ∨
      ∃ before message later middle final, messages = before ++ message :: later ∧
        handOver deliver state before = (middle, true) ∧
        deliver middle message = (final, false) := by
  induction messages generalizing state with
  | nil => exact .inl ⟨state, rfl⟩
  | cons message later inductionHypothesis =>
      rcases delivered : deliver state message with ⟨after, accepted⟩
      cases accepted with
      | false => exact .inr ⟨[], message, later, state, after, rfl, rfl, delivered⟩
      | true =>
          have first : handOver deliver state [message] = (after, true) := by
            rw [handOver, delivered]
            rfl
          have goesOn := handOver_append first
          rcases inductionHypothesis after with
            ⟨final, all⟩ | ⟨before, refused, rest, middle, final, rfl, taken, notTaken⟩
          · exact .inl ⟨final, (goesOn later).trans all⟩
          · exact .inr ⟨message :: before, refused, rest, middle, final, rfl,
              (goesOn before).trans taken, notTaken⟩

/-- What is written down is what was handed over, in the same order. -/
theorem handOver_recording (log : List Inbound)
    (taken : handOver deliver state messages = (final, true)) :
    handOver (recording deliver) (state, log) messages = ((final, log ++ messages), true) := by
  induction messages generalizing state log with
  | nil =>
      cases taken
      rw [List.append_nil]
      rfl
  | cons message later inductionHypothesis =>
      rw [handOver] at taken ⊢
      dsimp only [recording] at taken ⊢
      split at taken
      · next accepted =>
          rw [if_pos accepted, inductionHypothesis (log ++ [message]) taken,
            List.append_assoc, List.singleton_append]
      · cases taken

/-- The reader neither loses, invents, reorders nor splits messages. Of a stream of frames, with a
tail that is no frame, it hands over exactly the messages among the payloads, in order, if all are
taken; else those up to the first one that is not taken. Nothing of the tail is handed over. -/
theorem messages_relayed_in_order
    (small : ∀ payload ∈ payloads, payload.length ≤ largestPayload) (unfinished : Unfinished tail)
    (deliver : σ → Inbound → σ × Bool) (state : σ) :
    ∃ final relayed ending,
      relayAll (recording deliver) (state, []) (payloads.flatMap frame ++ tail) =
          ((final, relayed), ending) ∧
        relayAll deliver state (payloads.flatMap frame ++ tail) = (final, ending) ∧
        ((relayed = payloads.filterMap decodeInbound? ∧
            handOver deliver state relayed = (final, true) ∧ ending ≠ .refused) ∨
          ∃ before message later middle, relayed = before ++ [message] ∧
            payloads.filterMap decodeInbound? = before ++ message :: later ∧
            handOver deliver state before = (middle, true) ∧
            deliver middle message = (final, false) ∧ ending = .refused) := by
  rcases handOver_cases deliver state (payloads.filterMap decodeInbound?) with
    ⟨final, all⟩ | ⟨before, message, later, middle, final, split, taken, notTaken⟩
  · obtain ⟨ending, notRefused, ends⟩ := relayAll_unfinished.{u} unfinished
    refine ⟨final, _, ending, ?_, ?_, .inl ⟨rfl, all, notRefused⟩⟩
    · rw [relayAll_frames_append small, handOver_recording [] all, if_pos rfl, ends]
      rfl
    · rw [relayAll_frames_append small, all, if_pos rfl, ends]
  · refine ⟨final, _, _, ?_, ?_, .inr ⟨before, message, later, middle, rfl, split, taken, notTaken,
      rfl⟩⟩
    · have recorded : recording deliver (middle, [] ++ before) message =
          ((final, before ++ [message]), false) := by
        rw [recording, notTaken]
        rfl
      rw [relayAll_frames_append small, split, handOver_append (handOver_recording [] taken),
        handOver_cons_of_refused recorded, if_neg Bool.false_ne_true]
    · rw [relayAll_frames_append small, split, handOver_append taken,
        handOver_cons_of_refused notTaken, if_neg Bool.false_ne_true]

/-- Payloads of which the first and the third are no messages. -/
def mixedPayloads : List (List UInt8) :=
  [[], encodeInbound (.manager (.destroyWindow 48)), [0x7b],
    encodeInbound (.manager (.setText 49 "a frame"))]

/-- Whoever counts the messages counts two of them, and none in the frame that is cut off. -/
theorem messages_relayed_in_order_of_mixedPayloads :
    ∃ ending, relayAll (recording fun count _ => (count + 1, true)) (0, [])
        (mixedPayloads.flatMap frame ++ [0, 0, 0, 2, 0x7b]) =
      ((2, [.manager (.destroyWindow 48), .manager (.setText 49 "a frame")]), ending) := by
  have messages : mixedPayloads.filterMap decodeInbound? =
      [.manager (.destroyWindow 48), .manager (.setText 49 "a frame")] := by
    decide +kernel
  have small : ∀ payload ∈ mixedPayloads, payload.length ≤ largestPayload := by decide +kernel
  have cut : Unfinished [0, 0, 0, 2, 0x7b] :=
    .inl ⟨[0x7b, 0x7d], by decide, by decide, by decide⟩
  obtain ⟨final, relayed, ending, recorded, -, all | stopped⟩ :=
    messages_relayed_in_order small cut (fun count _ => (count + 1, true)) 0
  · obtain ⟨rfl, counted, -⟩ := all
    rw [messages] at counted recorded
    cases counted
    exact ⟨ending, recorded⟩
  · obtain ⟨before, message, later, middle, -, -, -, notTaken, -⟩ := stopped
    cases notTaken

end Loop

end Wire

end WindowRelay
