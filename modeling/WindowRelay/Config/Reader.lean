import WindowRelay.Config.Basic
import WindowRelay.Text.Ascii
import WindowRelay.Toml.Reader

/-!
Contract: configurations read from texts and files.

Owns:
- sections as tables or as lists of their fields in order, and the types of the fields;
- loading a file, and the text that is written for a missing one.

Everything that is not said keeps its default, and unknown names are passed over. A file is never
replaced.
-/

namespace WindowRelay

/-- Why there is no configuration. -/
inductive ConfigError where
  /-- the file cannot be read as a text -/
  | unreadable
  /-- the text is not a configuration -/
  | malformed
deriving DecidableEq, Repr

def ConfigError.message : ConfigError → String
  | unreadable => "Failed to read config file"
  | malformed => "Failed to parse config file"

namespace Config

open Toml (Value Members)

/-! ## Fields -/

/-- What a section says about its fields. A list gives them in order and may go on behind the
last; a date says nothing. -/
def fields? (names : List String) : Value → Option (List (Option Value))
  | .table _ members => some (names.map fun name => members.lookup name)
  | .array items => some ((List.range names.length).map fun position => items[position]?)
  | .tables elements =>
    let items := elements.reverse.map (Value.table .defined)
    some ((List.range names.length).map fun position => items[position]?)
  | .dateTime => some (names.map fun _ => none)
  | _ => none

def text? : Value → Option String
  | .string text => some text
  | _ => none

def flag? : Value → Option Bool
  | .boolean value => some value
  | _ => none

def unsigned? : Value → Option UInt32
  | .integer value =>
    if 0 ≤ value && value < UInt32.size then some (UInt32.ofNat value.toNat) else none
  | _ => none

def signed? : Value → Option Int32
  | .integer value =>
    if Int32.minValue.toInt ≤ value && value ≤ Int32.maxValue.toInt then some (Int32.ofInt value)
    else none
  | _ => none

def list? (item? : Value → Option α) : Value → Option (List α)
  | .array items => items.mapM item?
  | .tables elements => elements.reverse.mapM fun members => item? (.table .defined members)
  | _ => none

/-- A field with a default. -/
def field? (default : α) (decode : Value → Option α) : Option Value → Option α
  | none => some default
  | some value => decode value

/-! ## Sections -/

def display? (value : Value) : Option Display := do
  match ← fields? ["startup_dpi", "reserve_front_view"] value with
  | [startupDpi, reserveFrontView] =>
    let standard : Display := {}
    pure
      { startupDpi := ← field? standard.startupDpi unsigned? startupDpi
        reserveFrontView := ← field? standard.reserveFrontView flag? reserveFrontView }
  | _ => none

def input? (value : Value) : Option Input := do
  match ← fields? ["wheel_step", "horizontal_scroll_flag"] value with
  | [wheelStep, horizontalScrollFlag] =>
    let standard : Input := {}
    pure
      { wheelStep := ← field? standard.wheelStep signed? wheelStep
        horizontalScrollFlag :=
          ← field? standard.horizontalScrollFlag unsigned? horizontalScrollFlag }
  | _ => none

def startup? (value : Value) : Option Startup := do
  match ← fields? ["desktop_name", "first_run_commands", "prefix"] value with
  | [desktopName, firstRunCommands, prefixDirectory] =>
    let standard : Startup := {}
    pure
      { desktopName := ← field? standard.desktopName text? desktopName
        firstRunCommands :=
          ← field? standard.firstRunCommands (list? (list? text?)) firstRunCommands
        prefixDirectory := ← field? none (fun value => (text? value).map some) prefixDirectory }
  | _ => none

def clipboard? (value : Value) : Option Clipboard := do
  match ← fields? ["provider_authority"] value with
  | [authority] =>
    pure { providerAuthority := ← field? none (fun value => (text? value).map some) authority }
  | _ => none

def ipc? (value : Value) : Option Ipc := do
  match ← fields? ["socket_path"] value with
  | [path] => pure { socketPath := ← field? none (fun value => (text? value).map some) path }
  | _ => none

def logging? (value : Value) : Option Logging := do
  match ← fields? ["filter"] value with
  | [filter] =>
    let standard : Logging := {}
    pure { filter := ← field? standard.filter text? filter }
  | _ => none

/-- The configuration of a document. -/
def ofMembers? (members : Members) : Option Config := do
  pure
    { display := ← field? {} display? (members.lookup "display")
      input := ← field? {} input? (members.lookup "input")
      startup := ← field? {} startup? (members.lookup "startup")
      clipboard := ← field? {} clipboard? (members.lookup "clipboard")
      ipc := ← field? {} ipc? (members.lookup "ipc")
      logging := ← field? {} logging? (members.lookup "logging") }

/-- The configuration of a text. -/
def ofText (text : String) : Except ConfigError Config :=
  match (Toml.ofText? text).bind ofMembers? with
  | some config => .ok config
  | none => .error .malformed

/-! ## Files -/

/-- What stands at the path of a configuration. -/
inductive Place where
  | missing
  /-- nothing is there, and nothing can be written -/
  | blocked
  | directory
  | file (bytes : List UInt8)
deriving DecidableEq, Repr

/-- The text that is written for a missing configuration; it says the defaults. -/
def defaultText : String :=
  "[display]\nstartup_dpi = 160\nreserve_front_view = true\n\n" ++
  "[input]\nwheel_step = 120\nhorizontal_scroll_flag = 65536\n\n" ++
  "[startup]\ndesktop_name = \"shell\"\nfirst_run_commands = []\n\n" ++
  "[clipboard]\n\n[ipc]\n\n[logging]\nfilter = \"nwm_bridge=debug,info\"\n"

/-- The configuration of a place, and the place afterwards: a missing file is written with the
defaults if it can be. -/
def load : Place → Except ConfigError Config × Place
  | .missing => (.ok {}, .file (Text.bytes defaultText))
  | .blocked => (.ok {}, .blocked)
  | .directory => (.error .unreadable, .directory)
  | .file bytes =>
    match Text.ofBytes? bytes with
    | none => (.error .unreadable, .file bytes)
    | some text => (ofText text, .file bytes)

end Config

end WindowRelay
