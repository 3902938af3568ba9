import WindowRelay.Proofs.Wire.Values
import WindowRelay.Wire.Call

/-!
Contract: calls into the window manager are read back as they are written.

Owns:
- the calls that carry real numbers;
- all other calls are settled, and decoded from what they are encoded as.
-/

namespace WindowRelay

/-- Only the axes of a gamepad are real numbers. -/
def Call.carriesReal : Call → Bool
  | .gamepadAxis .. => true
  | _ => false

namespace Wire

open Json

/-- Environment overrides beside a command. -/
theorem settled_ofOptionEnvironment (depth : Nat) (environment : Option Environment) :
    Settled (depth + 1) (.ofOption ofEnvironment environment) :=
  settled_ofOption fun environment => settled_ofEnvironment depth environment

@[simp]
theorem optional?_environment (environment : Option Environment) :
    (Slot.given (.ofOption ofEnvironment environment)).optional? toEnvironment? =
      some environment :=
  optional?_ofOption toEnvironment?_ofEnvironment fun _ => Json.noConfusion

@[simp]
theorem toCommandLine?_fields (commandLine : String) (environment : Option Environment) :
    toCommandLine? (.object (commandLineFields commandLine environment)) =
      some (commandLine, environment) :=
  bind_slots?_object rfl (by decide) (by simp [commandLineFields, Slot.required?])

@[simp]
theorem toCommandArray?_fields (arguments : List String) (environment : Option Environment) :
    toCommandArray? (.object (commandArrayFields arguments environment)) =
      some (arguments, environment) :=
  bind_slots?_object rfl (by decide) (by simp [commandArrayFields, Slot.required?])

theorem settled_ofCall (depth : Nat) {call : Call} (plain : call.carriesReal = false) :
    Settled (depth + 3) (ofCall call) := by
  cases call with
  | gamepadAxis => cases plain
  | clipboardUpdate flags mimeTypes =>
      exact settled_tagged (by simp [settled_ofOption, settled_ofList])
  | runCommandLine commandLine environment =>
      exact settled_tagged (by simp [commandLineFields, settled_ofOptionEnvironment])
  | runCommandArray arguments environment =>
      exact settled_tagged
        (by simp [commandArrayFields, settled_ofList, settled_ofOptionEnvironment])
  | surfaceChanged window surface client => exact settled_tagged (by simp [settled_ofOption])
  | _ => exact settled_tagged (by simp)

/-- A call is read by its name. -/
theorem toCall?_tagged {name : String} {fields : List (String × Json)} (known : name ∈ callNames)
    (notField : "type" ∉ fields.map Prod.fst)
    (readable : (tagged "type" name fields).isReadable deepest = true) :
    toCall? (tagged "type" name fields) = toCallNamed? name (.object fields) := by
  rw [toCall?, readable, untag?_tagged notField]
  exact congrArg (·.bind (toCallNamed? · (.object fields))) (variant?_string known false)

theorem toCall?_ofCall {call : Call} (plain : call.carriesReal = false) :
    toCall? (ofCall call) = some call := by
  have readable : (ofCall call).isReadable deepest = true := (settled_ofCall 124 plain).readable
  cases call with
  | gamepadAxis => cases plain
  | surfaceChanged window surface client =>
      refine (toCall?_tagged (by decide) (by simp) readable).trans ?_
      exact bind_slots?_object rfl (by decide)
        (by simp [Slot.required?, optional?_ofOption toUInt64?_ofUInt64 fun _ => Json.noConfusion])
  | imeStart => exact toCall?_tagged (by decide) (by simp) readable
  | imeFinish => exact toCall?_tagged (by decide) (by simp) readable
  | imeCancel => exact toCall?_tagged (by decide) (by simp) readable
  | clipboardUpdate flags mimeTypes =>
      refine (toCall?_tagged (by decide) (by simp) readable).trans ?_
      exact bind_slots?_object rfl (by decide)
        (by simp [Slot.required?, optional?_ofOption toList?_texts fun _ => Json.noConfusion])
  | runCommandLine commandLine environment =>
      refine (toCall?_tagged (by decide) (by simp [commandLineFields]) readable).trans ?_
      exact congrArg (Option.map _) (toCommandLine?_fields commandLine environment)
  | runCommandArray arguments environment =>
      refine (toCall?_tagged (by decide) (by simp [commandArrayFields]) readable).trans ?_
      exact congrArg (Option.map _) (toCommandArray?_fields arguments environment)
  | _ =>
      exact (toCall?_tagged (by decide) (by simp) readable).trans
        (bind_slots?_object rfl (by decide) (by simp [Slot.required?]))

theorem decodeCall?_encodeCall {call : Call} (plain : call.carriesReal = false) :
    decodeCall? (encodeCall call) = some call := by
  rw [decodeCall?, encodeCall, ofBytes?_toBytes, (settled_ofCall 0 plain).reread]
  exact toCall?_ofCall plain

end Wire

end WindowRelay
