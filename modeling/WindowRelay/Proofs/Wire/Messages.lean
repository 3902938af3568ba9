import WindowRelay.Proofs.Wire.Calls
import WindowRelay.Proofs.Wire.Frame
import WindowRelay.Wire.Inbound

/-!
Contract: messages from a peer are read back as they are written.

Owns:
- the messages that carry real numbers;
- all other messages are settled, and decoded from what they are encoded as;
- messages and calls without real numbers come through frames, if they are not too long.
-/

namespace WindowRelay

/-- A scale, or a motion with its positions and axes. -/
def Inbound.carriesReal : Inbound → Bool
  | .manager (.createWindow ..) | .manager (.setParent ..) | .host (.motion _) => true
  | _ => false

namespace Wire

open Json

variable {depth : Nat}

/-! ## Bodies -/

theorem settled_ofManagerEvent (depth : Nat) {event : ManagerEvent}
    (plain : (Inbound.manager event).carriesReal = false) :
    Settled (depth + 3) (ofManagerEvent event) := by
  cases event with
  | createWindow | setParent => cases plain
  | setPosition => exact settled_tagged (by simp [settled_ofRect])
  | setIcon => exact settled_tagged (by simp [settled_ofOption, settled_ofList])
  | setCursor cursor => exact settled_tagged (by simp [settled_ofCursorRequest])
  | _ => exact settled_tagged (by simp)

theorem settled_ofShellCommand (depth : Nat) (command : ShellCommand) :
    Settled (depth + 3) (ofShellCommand command) := by
  cases command with
  | runCommandLine commandLine environment =>
      exact settled_tagged (by simp [commandLineFields, settled_ofOptionEnvironment])
  | runCommandArray arguments environment =>
      exact settled_tagged
        (by simp [commandArrayFields, settled_ofList, settled_ofOptionEnvironment])
  | closeDesktop => exact settled_tagged (by simp)

theorem settled_ofHostEvent (depth : Nat) {event : HostEvent}
    (plain : (Inbound.host event).carriesReal = false) :
    Settled (depth + 4) (ofHostEvent event) := by
  cases event with
  | motion => cases plain
  | key => exact settled_tagged (by simp [keyFields])
  | imeCommit =>
      exact settled_tagged (by simp [settled_ofOption, settled_ofList, settled_ofKey])
  | clipboardChanged => exact settled_tagged (by simp [settled_ofOption, settled_ofClip])
  | _ => exact settled_tagged (by simp)

@[simp]
theorem optional?_numbers (numbers : Option (List UInt32)) :
    (Slot.given (.ofOption (.ofList .ofUInt32) numbers)).optional? (toList? toUInt32?) =
      some numbers :=
  optional?_ofOption (fun _ => toList?_ofList fun number _ => toUInt32?_ofUInt32 number)
    fun _ => Json.noConfusion

@[simp]
theorem optional?_keys (keys : Option (List KeySample)) :
    (Slot.given (.ofOption (.ofList ofKey) keys)).optional? (toList? toKey?) = some keys :=
  optional?_ofOption (fun _ => toList?_ofList fun key _ => toKey?_keyFields key)
    fun _ => Json.noConfusion

@[simp]
theorem optional?_clip (clip : Option Clip) :
    (Slot.given (.ofOption ofClip clip)).optional? toClip? = some clip :=
  optional?_ofOption toClip?_ofClip fun _ => Json.noConfusion

/-! ## Messages -/

theorem settled_message {channel : String} {body : Json} (settled : Settled depth body) :
    Settled (depth + 1) (message channel body) :=
  settled_object (by simp [settled])

theorem settled_ofInbound (depth : Nat) {inbound : Inbound}
    (plain : inbound.carriesReal = false) : Settled (depth + 5) (ofInbound inbound) := by
  cases inbound with
  | manager event => exact settled_message (settled_ofManagerEvent (depth + 1) plain)
  | shell command => exact settled_message (settled_ofShellCommand (depth + 1) command)
  | host event => exact settled_message (settled_ofHostEvent depth plain)

/-- The body of a message is read on its channel. -/
theorem toInbound?_message (channel : String) (body : Json) :
    toInbound? (message channel body) = toBody? channel false body := by
  simp [toInbound?, message, valuesOf, toChannel?, comesBefore]

section Body

variable {name : String} {fields : List (String × Json)}

/-- The fields of a body are read by its tag. -/
theorem toBody?_manager {event : ManagerEvent} (known : name ∈ managerNames)
    (notField : "type" ∉ fields.map Prod.fst)
    (settled : Settled (deepest - 1) (tagged "type" name fields))
    (read : toManagerNamed? name (.object fields) = some event) :
    toBody? "nwm" false (tagged "type" name fields) = some (.manager event) := by
  rw [toBody?, settled.readable]
  exact bind_untag?_tagged notField
    (bind_variant?_string known (congrArg (Option.map Inbound.manager) read))

theorem toBody?_shell {command : ShellCommand} (known : name ∈ shellNames)
    (notField : "type" ∉ fields.map Prod.fst)
    (settled : Settled (deepest - 1) (tagged "type" name fields))
    (read : toShellNamed? name (.object fields) = some command) :
    toBody? "shell" false (tagged "type" name fields) = some (.shell command) := by
  rw [toBody?, settled.readable]
  exact bind_untag?_tagged notField
    (bind_variant?_string known (congrArg (Option.map Inbound.shell) read))

theorem toBody?_host {event : HostEvent} (known : name ∈ hostNames)
    (notField : "type" ∉ fields.map Prod.fst)
    (settled : Settled (deepest - 1) (tagged "type" name fields))
    (read : toHostNamed? name (.object fields) = some event) :
    toBody? "host" false (tagged "type" name fields) = some (.host event) := by
  rw [toBody?, settled.readable]
  exact bind_untag?_tagged notField
    (bind_variant?_string known (congrArg (Option.map Inbound.host) read))

end Body

theorem toBody?_ofManagerEvent {event : ManagerEvent}
    (plain : (Inbound.manager event).carriesReal = false) :
    toBody? "nwm" false (ofManagerEvent event) = some (.manager event) := by
  have settled : Settled (deepest - 1) (ofManagerEvent event) := settled_ofManagerEvent 123 plain
  cases event with
  | createWindow | setParent => cases plain
  | pollClipboard => exact toBody?_manager (by decide) (by simp) settled rfl
  | _ =>
      exact toBody?_manager (by decide) (by simp) settled
        (bind_slots?_object rfl (by decide) (by simp [Slot.required?]))

theorem toBody?_ofShellCommand (command : ShellCommand) :
    toBody? "shell" false (ofShellCommand command) = some (.shell command) := by
  have settled : Settled (deepest - 1) (ofShellCommand command) :=
    settled_ofShellCommand 123 command
  cases command with
  | runCommandLine commandLine environment =>
      refine toBody?_shell (by decide) (by simp [commandLineFields]) settled ?_
      exact congrArg (Option.map _) (toCommandLine?_fields commandLine environment)
  | runCommandArray arguments environment =>
      refine toBody?_shell (by decide) (by simp [commandArrayFields]) settled ?_
      exact congrArg (Option.map _) (toCommandArray?_fields arguments environment)
  | closeDesktop => exact toBody?_shell (by decide) (by simp) settled rfl

theorem toBody?_ofHostEvent {event : HostEvent}
    (plain : (Inbound.host event).carriesReal = false) :
    toBody? "host" false (ofHostEvent event) = some (.host event) := by
  have settled : Settled (deepest - 1) (ofHostEvent event) := settled_ofHostEvent 122 plain
  cases event with
  | motion => cases plain
  | key sample =>
      refine toBody?_host (by decide) (by simp [keyFields]) settled ?_
      exact congrArg (Option.map _) (toKey?_keyFields sample)
  | imeFinish => exact toBody?_host (by decide) (by simp) settled rfl
  | activityStarted => exact toBody?_host (by decide) (by simp) settled rfl
  | activityStopped => exact toBody?_host (by decide) (by simp) settled rfl
  | _ =>
      exact toBody?_host (by decide) (by simp) settled
        (bind_slots?_object rfl (by decide) (by simp [Slot.required?]))

theorem toInbound?_ofInbound {inbound : Inbound} (plain : inbound.carriesReal = false) :
    toInbound? (ofInbound inbound) = some inbound := by
  cases inbound with
  | manager event => exact (toInbound?_message _ _).trans (toBody?_ofManagerEvent plain)
  | shell command => exact (toInbound?_message _ _).trans (toBody?_ofShellCommand command)
  | host event => exact (toInbound?_message _ _).trans (toBody?_ofHostEvent plain)

theorem decodeInbound?_encodeInbound {inbound : Inbound} (plain : inbound.carriesReal = false) :
    decodeInbound? (encodeInbound inbound) = some inbound := by
  rw [decodeInbound?, encodeInbound, ofBytes?_toBytes, (settled_ofInbound 0 plain).reread]
  exact toInbound?_ofInbound plain

/-! ## Frames -/

/-- Whatever a peer says without real numbers comes through its frame, if it is not too long, and so
does every such call. -/
theorem messages_come_through :
    (∀ inbound : Inbound, inbound.carriesReal = false →
      (encodeInbound inbound).length ≤ largestPayload →
      ComesThrough decodeInbound? (frame (encodeInbound inbound)) inbound) ∧
    (∀ call : Call, call.carriesReal = false → (encodeCall call).length ≤ largestPayload →
      ComesThrough decodeCall? (frame (encodeCall call)) call) :=
  ⟨fun _ plain small => comesThrough_frame_iff.mpr ⟨small, decodeInbound?_encodeInbound plain⟩,
    fun _ plain small => comesThrough_frame_iff.mpr ⟨small, decodeCall?_encodeCall plain⟩⟩

theorem title_and_command_come_through :
    ComesThrough decodeInbound? (frame (encodeInbound (.manager (.setText 48 "a \"title\"\n"))))
      (.manager (.setText 48 "a \"title\"\n")) ∧
    ComesThrough decodeCall? (frame (encodeCall (.runCommandLine "größe" none)))
      (.runCommandLine "größe" none) :=
  ⟨messages_come_through.1 _ rfl (by decide +kernel),
    messages_come_through.2 _ rfl (by decide +kernel)⟩

end Wire

end WindowRelay
