import Std.Time.Zoned.Database
import Scrollback.CommandLine.Program
import Scrollback.Config.Template

/-!
The program: it looks at the disk, and prints and logs what `CommandLine.run` says.
-/

namespace Scrollback.CommandLine

def lookAt (path : String) : IO Disk.Entry := do
  try
    let real ← IO.FS.realPath path
    match (← real.metadata).type with
    | .dir => return .folder
    | .file => return .file (← IO.FS.readBinFile path).toList
    | _ => return .stream (← IO.FS.readBinFile path).toList
  catch
    | .inappropriateType .. => return .blocked
    | _ => return .missing

def portableFolder? : IO (Option String) := do
  match (← IO.appPath).parent with
  | none => return none
  | some folder =>
    if (← lookAt (folder / "config.toml").toString).isFile then return some folder.toString
    else return none

def userFolder (setting below : String) : IO String := do
  let named := (← IO.getEnv setting).filter (·.startsWith "/")
  let home := (← IO.getEnv "HOME").filter (!·.isEmpty)
  let base := named.getD ((home.map (· ++ below)).getD "/tmp")
  return base ++ "/" ++ programName

def folderFor (setting below : String) : IO String := do
  match ← portableFolder? with
  | some folder => return folder
  | none => userFolder setting below

def lookForConfig : IO ConfigFolder := do
  let folder ← folderFor "XDG_CONFIG_HOME" "/.config"
  try
    IO.FS.createDirAll folder
    let entry ← lookAt (folder ++ "/config.toml")
    if entry = .missing then
      try
        IO.FS.writeFile (folder ++ "/config.template.toml") Config.template
        return .available entry true
      catch _ => return .available entry false
    else return .available entry true
  catch _ => return .unavailable

def openLog : IO (Except Disk.Failure IO.FS.Handle) := do
  let folder ← folderFor "XDG_DATA_HOME" "/.local/share"
  try
    IO.FS.createDirAll folder
    return .ok (← IO.FS.Handle.mk (folder ++ "/hark.log") .write)
  catch
    | .inappropriateType .. => return .error .blocked
    | _ => return .error .missing

def currentTime : IO Timestamp := do
  let nanos := (← Std.Time.Timestamp.now).toNanosecondsSinceUnixEpoch.val
  return ⟨nanos / 1000000000, (nanos % 1000000000).toNat⟩

/- How far local time is ahead, by the zone of the machine; not at all if that is not known. -/
def localZone : IO (Int → Int) := do
  try
    let rules ← Std.Time.Database.defaultGetLocalZoneRules
    return fun second =>
      (rules.timezoneAt (.ofSecondsSinceUnixEpoch ⟨second⟩)).offset.second.val
  catch _ => return fun _ => 0

def logLine (now : Timestamp) (e : Log.Entry) : String :=
  now.writeClock ++ "." ++ Timestamp.padded 3 (now.nano / 1000000) ++ ":" ++ e.write

def namedPaths (a : Arguments) : List String :=
  let history := match a.command with
    | .search history _ _ _ => history
    | .highlights history _ _ => history
  a.config.toList ++ [history]

def lookAround (a : Arguments) : IO (Surroundings × Option IO.FS.Handle) := do
  let known ← (namedPaths a).mapM fun path => return (path, ← lookAt path)
  let configFolder ← if a.config.isSome then pure .unavailable else lookForConfig
  let now ← currentTime
  let zone ← localZone
  let surroundings (known : List (String × Disk.Entry)) (logFailure : Option Disk.Failure) :
      Surroundings :=
    { entry := fun path => (known.lookup path).getD .missing, configFolder, logFailure, now, zone }
  match loadConfig (surroundings known none) a.config with
  | .error _ => return (surroundings known none, none)
  | .ok config =>
    let fallback ← config.sound.customFallback.toList.mapM fun path => return (path, ← lookAt path)
    let known := known ++ fallback
    if a.debug then return (surroundings known none, none)
    match ← openLog with
    | .ok handle => return (surroundings known none, some handle)
    | .error cause => return (surroundings known (some cause), none)

def present (s : Surroundings) (o : Outcome) (log : Option IO.FS.Handle) : IO Unit := do
  let now := s.localTime (← currentTime)
  for e in o.logged do
    match o.logTarget, log with
    | .standardError, _ => IO.eprintln (logLine now e)
    | .file, some handle => handle.putStrLn (logLine now e)
    | _, _ => pure ()
  for line in o.printed do IO.println line
  match o.failure.bind (·.message?) with
  | some text => IO.eprintln ("Error: " ++ text)
  | none => if o.code = 2 then IO.eprintln "error: invalid arguments, try --help"

end Scrollback.CommandLine

open Scrollback Scrollback.CommandLine in
def main (args : List String) : IO UInt32 := do
  match parse args with
  | .run a =>
    let (surroundings, log) ← lookAround a
    let o := run surroundings args
    present surroundings o log
    return o.code.toUInt32
  | _ =>
    let nowhere : Surroundings := {
      entry := fun _ => .missing, configFolder := .unavailable, logFailure := none, now := ⟨0, 0⟩ }
    let o := run nowhere args
    present nowhere o none
    return o.code.toUInt32
