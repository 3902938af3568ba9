import WindowRelay.Proofs.Numeric.Binary32
import WindowRelay.Proofs.Wire.Calls

/-!
Contract: the axes of a gamepad are read back as far as they are finite.

Owns:
- finite real numbers, and those whose written form is read as the number itself;
- a call is read back just if all its real numbers are finite.

That the digits of a finite number are read as that number is a property of printing and reading
numbers; it is taken as a hypothesis about the numbers of one call.
-/

namespace WindowRelay

/-! ## Real numbers -/

namespace Binary32

/-- The written form of a number is read as the number. -/
def ComesBack (number : Binary32) : Prop :=
  (Json.ofBytes? (Json.ofBinary32 number).toBytes).bind Json.toBinary32? = some number

instance (number : Binary32) : Decidable number.ComesBack :=
  inferInstanceAs (Decidable (_ = _))

theorem toBinary32?_reread {number : Binary32} (comesBack : number.ComesBack) :
    (Json.ofBinary32 number).reread.toBinary32? = some number := by
  rw [ComesBack, Json.ofBytes?_toBytes] at comesBack
  exact comesBack

theorem ofBinary32_eq_null {number : Binary32} (notFinite : number.isFinite = false) :
    Json.ofBinary32 number = .null := by
  rw [Json.ofBinary32, toDecimal?_of_isFinite_eq_false notFinite]

end Binary32

/-- The real numbers of a call. -/
def Call.reals : Call → List Binary32
  | .gamepadAxis _ axes => axes.toList
  | _ => []

namespace Wire

open Json

/-- The real numbers of a call come back, as far as they are finite. -/
def FiniteComeBack (call : Call) : Prop :=
  ∀ value ∈ call.reals, value.isFinite = true → value.ComesBack

/-! ## Axes -/

/-- The axes of a gamepad when they are read back. -/
def axesRead (axes : GamepadAxes) : Json :=
  .array (axes.toList.map fun value => (Json.ofBinary32 value).reread)

theorem reread_ofGamepadAxis (device : Int32) (axes : GamepadAxes) :
    (ofCall (.gamepadAxis device axes)).reread =
      tagged "type" "GamepadAxis" [("device_id", .ofInt32 device), ("axes", axesRead axes)] := by
  have axesBack : (ofAxes axes).reread = axesRead axes := by
    rw [ofAxes, ofList, reread, rereadItems_eq, List.map_map]
    rfl
  simp only [ofCall, tagged, reread, rereadMembers, axesBack, (settled_ofInt32 0 device).reread]

/-- A number is read as data, and so is the `null` that stands for what is not finite. -/
theorem isReadable_reread {value : Binary32} (depth : Nat)
    (comesBack : value.isFinite = true → value.ComesBack) :
    (Json.ofBinary32 value).reread.isReadable depth = true := by
  cases isFinite : value.isFinite with
  | false =>
      rw [Binary32.ofBinary32_eq_null isFinite]
      rfl
  | true =>
      have same := Binary32.toBinary32?_reread (comesBack isFinite)
      generalize (Json.ofBinary32 value).reread = json at same
      cases json with
      | number digits =>
          have read : digits.toBinary32? = some value := same
          rw [isReadable, read]
          rfl
      | _ => cases same

theorem isReadable_axesRead {axes : GamepadAxes} (depth : Nat)
    (comeBack : ∀ value ∈ axes.toList, value.isFinite = true → value.ComesBack) :
    (axesRead axes).isReadable (depth + 1) = true := by
  refine areReadable_of_forall fun item member => ?_
  obtain ⟨value, isAxis, rfl⟩ := List.mem_map.mp member
  exact isReadable_reread depth (comeBack value isAxis)

theorem mapM_eq_none {α β : Type} {read : α → Option β} {item : α} {items : List α}
    (member : item ∈ items) (unread : read item = none) : items.mapM read = none := by
  induction items with
  | nil => cases member
  | cons first rest inductionHypothesis =>
      rw [List.mapM_cons]
      rcases List.mem_cons.mp member with rfl | later
      · rw [unread]
        rfl
      · rw [inductionHypothesis later]
        cases read first <;> rfl

theorem toAxes?_axesRead {axes : GamepadAxes}
    (comeBack : ∀ value ∈ axes.toList, value.isFinite = true → value.ComesBack) :
    toAxes? (axesRead axes) = if axes.toList.all Binary32.isFinite then some axes else none := by
  split
  · next allFinite =>
      have read : toList? toBinary32? (axesRead axes) = some axes.toList :=
        mapM_map_eq_some fun value isAxis => Binary32.toBinary32?_reread
          (comeBack value isAxis (List.all_eq_true.mp allFinite value isAxis))
      rw [toAxes?, read]
      exact GamepadAxes.ofList?_toList axes
  · next someNot =>
      obtain ⟨value, isAxis, notFinite⟩ := List.all_eq_false.mp (Bool.eq_false_iff.mpr someNot)
      have isNull : (Json.ofBinary32 value).reread = .null := by
        rw [Binary32.ofBinary32_eq_null (Bool.eq_false_iff.mpr notFinite)]
        rfl
      have unread : toList? toBinary32? (axesRead axes) = none :=
        mapM_eq_none (List.mem_map_of_mem isAxis) (by rw [isNull]; rfl)
      rw [toAxes?, unread]
      rfl

theorem toCallNamed?_gamepadAxis (device : Int32) (axes : Json) :
    toCallNamed? "GamepadAxis" (.object [("device_id", .ofInt32 device), ("axes", axes)]) =
      (toAxes? axes).map (.gamepadAxis device) := by
  have named : [("device_id", Json.ofInt32 device), ("axes", axes)].map Prod.fst =
      gamepadAxisNames := rfl
  refine (bind_slots?_object_eq named (by decide)).trans ?_
  simp only [List.map_cons, List.map_nil, Slot.required?, toInt32?_ofInt32]
  cases toAxes? axes <;> rfl

/-! ## Calls -/

/-- A call is read back just if all its real numbers are finite; otherwise nothing is read. -/
theorem decodeCall?_encodeCall_eq {call : Call} (comeBack : FiniteComeBack call) :
    decodeCall? (encodeCall call) =
      if call.reals.all Binary32.isFinite then some call else none := by
  cases call with
  | gamepadAxis device axes =>
      -- All of the payload is readable either way: what is not finite has become `null`.
      have readable : (tagged "type" "GamepadAxis"
          [("device_id", .ofInt32 device), ("axes", axesRead axes)]).isReadable deepest = true := by
        have deviceReadable := (settled_ofInt32 126 device).readable
        have axesReadable := isReadable_axesRead 125 comeBack
        exact areMembersReadable_of_forall (by simp [isReadable, deviceReadable, axesReadable])
      rw [decodeCall?, encodeCall, ofBytes?_toBytes, reread_ofGamepadAxis, Option.bind_some,
        toCall?_tagged (by decide) (by simp) readable, toCallNamed?_gamepadAxis,
        toAxes?_axesRead comeBack]
      exact apply_ite (Option.map (Call.gamepadAxis device)) _ _ _
  | _ => exact decodeCall?_encodeCall rfl

end Wire

end WindowRelay
