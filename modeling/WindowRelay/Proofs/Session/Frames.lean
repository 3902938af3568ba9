import WindowRelay.Proofs.Input.Gamepads
import WindowRelay.Proofs.Json.Sizes
import WindowRelay.Proofs.Session.Calls
import WindowRelay.Proofs.Wire.Axes
import WindowRelay.Proofs.Wire.Frame
import WindowRelay.Session.Relay
import WindowRelay.Wire.Inbound

/-!
Contract: which calls of a session a peer can read.

Owns:
- the calls without a text of any length fit in a frame;
- which real numbers a joystick may send on;
- a call comes through its frame just if it fits and its real numbers are finite.
-/

namespace WindowRelay

/-- A call with a text of any length, which a peer or the configuration gave. -/
def Call.carriesText : Call → Bool
  | .imeSetText .. | .clipboardUpdate .. | .runCommandLine .. | .runCommandArray .. => true
  | _ => false

theorem Call.reals_of_isBare {call : Call} (isBare : call.isBare = true) : call.reals = [] := by
  cases call <;> first | rfl | cases isBare

/-! ## Lengths -/

namespace Json

/-- A field that does not take much room: a short name and a brief value. -/
def BriefField (field : String × Json) : Prop :=
  (Text.bytes field.1).length ≤ 255 ∧ Brief field.2

theorem BriefField.length_memberBytes_le {field : String × Json} (brief : BriefField field) :
    (memberBytes field).length ≤ 3600 := by
  obtain ⟨shortName, briefValue⟩ := brief
  have escaped := length_textBytes_le field.1
  unfold Brief at briefValue
  simp only [memberBytes, List.length_append, List.length_cons]
  omega

end Json

namespace Wire

open Json

/-- A variant of a few brief fields fits in a frame. -/
theorem length_tagged_le {tag name : String} {fields : List (String × Json)}
    (few : fields.length ≤ 8) (tagField : BriefField (tag, .string name))
    (brief : ∀ field ∈ fields, BriefField field) :
    (tagged tag name fields).toBytes.length ≤ largestPayload := by
  have each : ∀ field ∈ (tag, Json.string name) :: fields, (memberBytes field).length ≤ 3600 :=
    fun field member =>
      (List.forall_mem_cons.mpr ⟨tagField, brief⟩ field member).length_memberBytes_le
  have all := length_object_le each
  have limit : largestPayload = 1048576 := rfl
  rw [List.length_cons] at all
  rw [tagged, limit]
  omega

theorem brief_ofAxes (axes : GamepadAxes) : Brief (ofAxes axes) := by
  have each : ∀ item ∈ axes.toList.map Json.ofBinary32, item.toBytes.length ≤ 131 := by
    intro item member
    obtain ⟨value, -, rfl⟩ := List.mem_map.mp member
    exact length_ofBinary32_le value
  exact Nat.le_trans (length_array_le each) (by simp [GamepadAxes.toList])

theorem length_encodeCall_le_of_isBare {call : Call} (isBare : call.isBare = true) :
    (encodeCall call).length ≤ largestPayload := by
  cases call with
  | gamepadAxis | gamepadData | imeSetText | clipboardUpdate | runCommandLine | runCommandArray =>
      cases isBare
  | surfaceChanged =>
      exact length_tagged_le (by simp) ⟨by decide, brief_string (by decide)⟩
        (by simp +decide [BriefField, brief_ofOption])
  | _ =>
      exact length_tagged_le (by simp) ⟨by decide, brief_string (by decide)⟩
        (by simp +decide [BriefField])

theorem length_encodeCall_gamepadAxis_le (device : Int32) (axes : GamepadAxes) :
    (encodeCall (.gamepadAxis device axes)).length ≤ largestPayload :=
  length_tagged_le (by simp) ⟨by decide, brief_string (by decide)⟩
    (by simp +decide [BriefField, brief_ofAxes])

theorem length_encodeCall_gamepadData_le (index : UInt64) (device : Int32) {name : String}
    (short : (Text.bytes name).length ≤ 255) :
    (encodeCall (.gamepadData index device name)).length ≤ largestPayload :=
  length_tagged_le (by simp) ⟨by decide, brief_string (by decide)⟩
    (by simp +decide [BriefField, brief_string short])

end Wire

/-! ## Joysticks -/

namespace Router

variable {readings : List AxisReading} {value : Binary32}

/-- Every axis that is sent on is a value of the axes that were read, without its flat range. -/
theorem exists_centered_of_mem (member : value ∈ (joystickAxes readings).toList) :
    ∃ axis, value = centered readings axis := by
  have one : ∀ primary fallback,
      ∃ axis, either readings primary fallback = centered readings axis := by
    intro primary fallback
    unfold either
    dsimp only
    split
    · exact ⟨fallback, rfl⟩
    · exact ⟨primary, rfl⟩
  simp only [GamepadAxes.toList, joystickAxes, List.mem_cons, List.not_mem_nil, or_false] at member
  rcases member with rfl | rfl | rfl | rfl | rfl | rfl | rfl | rfl | rfl | rfl
  all_goals first | exact ⟨_, rfl⟩ | exact one _ _

/-- An axis that is not finite was read as an infinity. -/
theorem exists_infinite_of_mem (member : value ∈ (joystickAxes readings).toList)
    (notFinite : value.isFinite = false) :
    ∃ reading ∈ readings, reading.value = value ∧ value.datum = .infinite value.isNegative := by
  obtain ⟨axis, rfl⟩ := exists_centered_of_mem member
  revert notFinite
  unfold centered
  split
  · next reading found =>
      split
      · next beyond =>
          intro notFinite
          refine ⟨reading, List.mem_of_find?_eq_some found, rfl,
            Binary32.datum_of_isFinite_eq_false notFinite ?_⟩
          -- What lies beyond a flat range is compared with it, so it is a number.
          unfold Binary32.lt Binary32.isNaN at beyond
          rw [Binary32.magnitudeBits_abs] at beyond
          simp only [Bool.and_eq_true, Bool.not_eq_true'] at beyond
          exact beyond.1.2
      · exact fun notFinite => absurd notFinite (by decide)
  · exact fun notFinite => absurd notFinite (by decide)

end Router

/-! ## Calls of a session -/

namespace Session

variable {session : Session} {task : Task} {message : Inbound} {call : Call}

theorem Stems.length_encodeCall_le (stems : session.Stems task call)
    (noText : call.carriesText = false) :
    (Wire.encodeCall call).length ≤ Wire.largestPayload := by
  cases stems with
  | bare isBare => exact Wire.length_encodeCall_le_of_isBare isBare
  | axes moved => exact Wire.length_encodeCall_gamepadAxis_le _ _
  | gamepad index device descriptor =>
      exact Wire.length_encodeCall_gamepadData_le index device
        (Gamepads.longest_name descriptor).fits
  | text text cursor => cases noText
  | clip polls own clip => cases noText
  | @request request asked => cases request <;> cases noText

theorem Stems.exists_infinite {value : Binary32} (stems : session.Stems task call)
    (isReal : value ∈ call.reals) (notFinite : value.isFinite = false) :
    ∃ sample, task = .host (.motion sample) ∧
      ∃ reading ∈ sample.axes, ∃ negative, reading.value.datum = .infinite negative := by
  cases stems with
  | @axes sample moved =>
      obtain ⟨reading, isRead, rfl, infinite⟩ := Router.exists_infinite_of_mem isReal notFinite
      exact ⟨sample, moved, reading, isRead, _, infinite⟩
  | bare isBare =>
      rw [Call.reals_of_isBare isBare] at isReal
      cases isReal
  | gamepad | text | clip => cases isReal
  | @request request asked => cases request <;> cases isReal

/-- A call of a session comes through its frame just if it fits there and all its real numbers are
finite. Only calls with a text may not fit, and only a joystick that is read at an infinity gives
numbers that are not finite. This holds in every session, however it came about, and for every
message, whatever payload it was read from. -/
theorem call_comes_through_iff
    (sent : call ∈ sentBy Reaction.calls (session.dispatch (Relay.taskOf message)))
    (comeBack : Wire.FiniteComeBack call) :
    (Wire.ComesThrough Wire.decodeCall? (Wire.frame (Wire.encodeCall call)) call ↔
      (Wire.encodeCall call).length ≤ Wire.largestPayload ∧
        ∀ value ∈ call.reals, value.isFinite = true) ∧
    (call.carriesText = false → (Wire.encodeCall call).length ≤ Wire.largestPayload) ∧
    ((∃ value ∈ call.reals, value.isFinite = false) →
      ∃ sample, message = .host (.motion sample) ∧
        ∃ reading ∈ sample.axes, ∃ negative, reading.value.datum = .infinite negative) := by
  have stems := stems_dispatch session (Relay.taskOf message) call sent
  refine ⟨?_, stems.length_encodeCall_le, ?_⟩
  · rw [Wire.comesThrough_frame_iff, Wire.decodeCall?_encodeCall_eq comeBack, ← List.all_eq_true]
    simp
  · rintro ⟨value, isReal, notFinite⟩
    obtain ⟨sample, moved, infinite⟩ := stems.exists_infinite isReal notFinite
    refine ⟨sample, ?_, infinite⟩
    -- Only a message of the host is dispatched as a task of the host.
    cases message <;> cases moved
    rfl

/-- The written form of a joystick motion on a window, with the reading of one axis. -/
def joystickPayload (reading : String) : List UInt8 :=
  Text.bytes
    ("\x7b\"channel\":\"host\",\"body\":\x7b\"type\":\"Motion\",\"window_id\":48," ++
      "\"source\":16777232,\"action\":2,\"x\":0.0,\"y\":0.0,\"axes\":[\x7b\"axis\":\"X\"," ++
      "\"value\":" ++ reading ++ "\x7d]\x7d\x7d")

/-- The motion that is read from it. -/
def joystickMotion (value : Binary32) : HostEvent :=
  .motion
    { window := 48, source := InputSource.joystick, action := MotionAction.move.code,
      x := Binary32.zero, y := Binary32.zero, axes := [{ axis := .x, value }] }

/-- The call to which the motion leads. -/
def joystickCall (value : Binary32) : Call :=
  .gamepadAxis 0 (Router.joystickAxes [{ axis := .x, value }])

/-- A session with one top-level window. -/
def oneWindow : Except Interruption Session :=
  (fresh {} none).dispatchAll
    [.manager (.createWindow 48 false WindowId.absent Binary32.one 7)]

theorem half_turned_axis_comes_through :
    ∃ session, oneWindow = .ok session ∧
      Wire.decodeInbound? (joystickPayload "0.5") = some (.host (joystickMotion ⟨0x3f000000⟩)) ∧
      joystickCall ⟨0x3f000000⟩ ∈ sentBy Reaction.calls
        (session.dispatch (Relay.taskOf (.host (joystickMotion ⟨0x3f000000⟩)))) ∧
      Wire.ComesThrough Wire.decodeCall?
        (Wire.frame (Wire.encodeCall (joystickCall ⟨0x3f000000⟩)))
        (joystickCall ⟨0x3f000000⟩) := by
  have ends : oneWindow.map (fun session => sentBy Reaction.calls
      (session.dispatch (Relay.taskOf (.host (joystickMotion ⟨0x3f000000⟩))))) =
        .ok [joystickCall ⟨0x3f000000⟩] := by
    decide +kernel
  obtain ⟨session, ran, calls⟩ := map_eq_ok.mp ends
  have sent := calls ▸ List.mem_singleton_self (joystickCall ⟨0x3f000000⟩)
  refine ⟨session, ran, by decide +kernel, sent, ?_⟩
  have comeBack : Wire.FiniteComeBack (joystickCall ⟨0x3f000000⟩) := by
    unfold Wire.FiniteComeBack
    decide +kernel
  obtain ⟨through, fits, -⟩ := call_comes_through_iff sent comeBack
  exact through.mpr ⟨fits rfl, by decide +kernel⟩

/-- A reading that is too large is read as an infinity and sent on; no peer can read the call. -/
theorem infinite_axis_is_lost :
    ∃ session, oneWindow = .ok session ∧
      Wire.decodeInbound? (joystickPayload "1e39") =
        some (.host (joystickMotion (Binary32.infinity false))) ∧
      joystickCall (Binary32.infinity false) ∈ sentBy Reaction.calls
        (session.dispatch (Relay.taskOf (.host (joystickMotion (Binary32.infinity false))))) ∧
      Wire.decodeCall? (Wire.encodeCall (joystickCall (Binary32.infinity false))) = none := by
  have ends : oneWindow.map (fun session => sentBy Reaction.calls
      (session.dispatch (Relay.taskOf (.host (joystickMotion (Binary32.infinity false)))))) =
        .ok [joystickCall (Binary32.infinity false)] := by
    decide +kernel
  obtain ⟨session, ran, calls⟩ := map_eq_ok.mp ends
  exact ⟨session, ran, by decide +kernel, calls ▸ List.mem_singleton_self _, by decide +kernel⟩

/-! ## Long texts -/

/-- A text of so many letters. -/
def letters (count : Nat) : String :=
  String.ofList (List.replicate count 'a')

theorem length_textBytes_letters (count : Nat) :
    (Json.textBytes (letters count)).length = count + 2 := by
  have escapes : ∀ count, (((List.replicate count 'a').flatMap String.utf8EncodeChar).flatMap
      Json.escape).length = count := by
    intro count
    induction count with
    | zero => rfl
    | succ count inductionHypothesis =>
        rw [List.replicate_succ, List.flatMap_cons, List.flatMap_append, List.length_append,
          inductionHypothesis]
        exact Nat.add_comm 1 count
  simp only [Json.textBytes, letters, Text.bytes_ofList, List.length_cons, List.length_append,
    List.length_nil, escapes]

/-- The shortest written form of a composed text. -/
def composition (text : String) : Json :=
  .array [.string "host", .array [.string "ImeCompose", .string text, .ofInt32 0]]

theorem decodeInbound?_composition (text : String) :
    Wire.decodeInbound? (composition text).toBytes = some (.host (.imeCompose text 0)) := by
  have settled : Json.Settled 2 (composition text) :=
    Json.settled_array (by simp [Json.settled_array])
  rw [Wire.decodeInbound?, Json.ofBytes?_toBytes, settled.reread]
  rfl

/-- A text may come in a payload that is admitted, and be sent on in one that is not. -/
theorem composed_text_outgrows_frame (session : Session) (callsOpen : session.callsOpen = true) :
    ∃ payload message, payload.length ≤ Wire.largestPayload ∧
      Wire.decodeInbound? payload = some message ∧
      ∃ call ∈ sentBy Reaction.calls (session.dispatch (Relay.taskOf message)),
        Wire.largestPayload < (Wire.encodeCall call).length := by
  -- The text stays a variable from here on, so that nothing computes with its letters.
  obtain ⟨text, size⟩ : ∃ text, (Json.textBytes text).length = 1048530 + 2 :=
    ⟨letters 1048530, length_textBytes_letters 1048530⟩
  have limit : Wire.largestPayload = 1048576 := rfl
  refine ⟨(composition text).toBytes, _, ?_, decodeInbound?_composition _,
    Composition.setText text 0, ?_, ?_⟩
  · have host : (Json.textBytes "host").length = 6 := by decide
    have name : (Json.textBytes "ImeCompose").length = 12 := by decide
    have zero : (Json.ofInt32 0).toBytes.length = 1 := by decide
    simp [composition, Json.toBytes_array_cons, Json.moreItems, Json.toBytes_string, host, name,
      size, zero, limit]
  · have sent : Composition.setText text 0 ∈
        session.deliver (Composition.composeCalls text 0) := by
      rw [deliver, if_pos callsOpen]
      exact List.mem_cons_of_mem _ (List.mem_singleton_self _)
    exact sent
  · have tag : (Json.textBytes "type").length = 6 := by decide
    have name : (Json.textBytes "ImeSetText").length = 12 := by decide
    have textName : (Json.textBytes "text").length = 6 := by decide
    have lengthName : (Json.textBytes "length").length = 8 := by decide
    have cursorName : (Json.textBytes "cursor").length = 8 := by decide
    simp only [limit, Wire.encodeCall, Wire.ofCall, Composition.setText, Wire.tagged,
      Json.toBytes_object_cons, Json.memberBytes, Json.toBytes_string, Json.moreMembers,
      List.flatMap_cons, List.flatMap_nil, List.append_nil, List.cons_append, List.append_assoc,
      List.length_cons, List.length_append, List.length_nil, tag, name, textName, lengthName,
      cursorName, size]
    omega

end Session

end WindowRelay
