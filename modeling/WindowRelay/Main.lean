import WindowRelay.Config.Reader
import WindowRelay.Session.Service

/-!
Contract: the command line.

Owns:
- the place of the configuration file, and the transport of bytes: one peer talks to the session
  over standard input and output.

Decisions are made in `Config.Reader` and `Session.Service`; this module reads, writes and passes
on.
-/

namespace WindowRelay

namespace Main

/-- The path behind `--config` or `-c`. -/
def configArgument : List String → Option String
  | option :: rest =>
    if option == "--config" || option == "-c" then rest.head? else configArgument rest
  | [] => none

/-- The directory of configurations: an absolute one from the environment, else in the home
directory. -/
def configDirectory : IO String := do
  match ← IO.getEnv "XDG_CONFIG_HOME" with
  | some directory => if directory.startsWith "/" then return directory
  | none => pure ()
  let home := (← IO.getEnv "HOME").getD ""
  return Config.inDirectory home ".config"

/-- What stands at a path. -/
def placeAt (path : String) : IO Config.Place := do
  try
    let bytes ← IO.FS.readBinFile path
    return .file bytes.toList
  catch
    | .noFileOrDirectory .. => return .missing
    | _ => return .directory

/-- Write the configuration that `Config.load` put at a missing place, if that is possible. -/
def writeDefault (path : String) (place : Config.Place) : IO Unit := do
  match place with
  | .file bytes =>
    try
      match (path.splitOn "/").dropLast with
      | [] => pure ()
      | parts => IO.FS.createDirAll (String.intercalate "/" parts)
      IO.FS.writeBinFile path ⟨bytes.toArray⟩
    catch _ => IO.eprintln "Failed to create default config file"
  | _ => pure ()

def loadConfig (path : String) : IO (Except ConfigError Config) := do
  let place ← placeAt path
  let (loaded, after) := Config.load place
  if place == .missing then writeDefault path after
  return loaded

/-- The file that marks a prefix directory in which first-run commands have run. -/
def markerName : String := ".nwm-bridge-initialized"

def prefixDirectory (config : Config) : IO (Option PrefixDirectory) := do
  match config.startup.prefixDirectory with
  | none => return none
  | some directory =>
    try
      let _ ← IO.FS.readBinFile (Config.inDirectory directory markerName)
      return some ⟨true, true⟩
    catch _ => return some ⟨false, true⟩

/-- Write the marker once the session has left one. -/
def leaveMarker (config : Config) (before after : Option PrefixDirectory) : IO Unit := do
  match config.startup.prefixDirectory, before, after with
  | some directory, some ⟨false, _⟩, some ⟨true, _⟩ =>
    try
      IO.FS.createDirAll directory
      IO.FS.writeBinFile (Config.inDirectory directory markerName) ⟨#[]⟩
    catch _ => IO.eprintln "Failed to write first-run marker"
  | _, _, _ => pure ()

/-- Read so many bytes, or fewer at the end of the input. -/
partial def readExactly (input : IO.FS.Stream) (count : Nat) (before : ByteArray) :
    IO ByteArray := do
  if count = 0 then return before
  let chunk ← input.read (USize.ofNat count)
  if chunk.isEmpty then return before
  readExactly input (count - chunk.size) (before ++ chunk)

/-- The bytes of the next frame. A frame that claims to be too large is its length alone. -/
def readFrame (input : IO.FS.Stream) : IO (List UInt8) := do
  let length := (← readExactly input 4 .empty).toList
  match length with
  | [first, second, third, fourth] =>
    match Wire.payloadLength first second third fourth with
    | .ok size => return length ++ (← readExactly input size .empty).toList
    | .error _ => return length
  | _ => return length

/-- Serve frames until the input or the session ends. -/
partial def serve (input output : IO.FS.Stream) (service : Service) : IO Unit := do
  let frame ← readFrame input
  if frame.isEmpty then return
  let (fed, ending) := service.feed frame
  let (next, calls) := fed.takeCalls
  let session := next.relay.session
  leaveMarker session.config service.relay.session.prefixDirectory session.prefixDirectory
  for call in calls do
    output.write ⟨(Wire.frame (Wire.encodeCall call)).toArray⟩
  output.flush
  match ending with
  | .streamEnded => if !next.stopped then serve input output next
  | .oversized fault => IO.eprintln ("Dropping peer: " ++ fault.message)
  | .refused => pure ()

end Main

end WindowRelay

open WindowRelay in
/-- Load the configuration and serve one peer. -/
def main (arguments : List String) : IO UInt32 := do
  let path ←
    match Main.configArgument arguments with
    | some path => pure path
    | none =>
      let directory ← Main.configDirectory
      pure (Config.inDirectory (Config.inDirectory directory "nwm-bridge") "config.toml")
  match ← Main.loadConfig path with
  | .error error =>
    IO.eprintln "Error: Failed to load configuration"
    IO.eprintln ("Caused by: " ++ error.message)
    return 1
  | .ok config =>
    let session := Session.fresh config (← Main.prefixDirectory config)
    Main.serve (← IO.getStdin) (← IO.getStdout) (Service.start session)
    return 0
