import Promotion.CommandLine.Run
import Promotion.Log.Record
import Std.Time.DateTime.Timestamp

/-! The program: arguments, environment, clock and file in, both outputs and the exit code out. -/
namespace Promotion.Main

open Promotion

/-- The variables of the environment that settings are read from. -/
def environment : IO (List (String × String)) := do
  let names := Settings.names.flatMap fun name => [name, Text.upper name]
  let values ← names.mapM fun name => do return (name, ← IO.getEnv name)
  return values.filterMap fun (name, value) => value.map fun value => (name, value)

/-- The time now, in UTC. -/
def now : IO DateTime := do
  let time ← Std.Time.Timestamp.now
  let micros := time.toNanosecondsSinceUnixEpoch.toInt / 1000
  return (DateTime.ofInstant? micros).getD ⟨⟨1970, 1, 1, by decide⟩, .midnight, some 0⟩

/-- The fault for an error of the system. Its number may come with the sign turned, and its words
without a capital. -/
def fileFault (number : UInt32) (text : String) : FileFault :=
  match (if number < 0x80000000 then number else -number).toNat with
  | 2 => .missing
  | 20 => .notInDirectory
  | 21 => .isDirectory
  | 36 => .nameTooLong
  | number => .other number text.capitalize

/-- The content of a file. -/
def readFile (name : String) : IO (Except FileFault ByteArray) := do
  try
    return .ok (← IO.FS.readBinFile name)
  catch
    | .noFileOrDirectory _ number text
    | .invalidArgument _ number text
    | .permissionDenied _ number text
    | .resourceExhausted _ number text
    | .inappropriateType _ number text
    | .noSuchThing _ number text
    | .interrupted _ number text
    | .alreadyExists _ number text
    | .otherError number text
    | .resourceBusy number text
    | .resourceVanished number text
    | .unsupportedOperation number text
    | .hardwareFault number text
    | .unsatisfiedConstraints number text
    | .illegalOperation number text
    | .protocolError number text
    | .timeExpired number text => return .error (fileFault number text)
    | error => throw error

/-- A fresh id for requests. -/
def randomId : IO String := do
  let bytes ← IO.getRandomBytes 16
  return String.ofList (bytes.toList.flatMap fun b => Text.hexDigits true 2 b.toNat)

/-- A line of the log as it is written. -/
def logText (settings : ActiveSettings) (time : DateTime) (line : LogLine) : String :=
  let plain := s!"{time.logText} {line.level.word} {line.logger}: {line.message}"
  if settings.structuredLogs.truthy then
    let record : LogRecord := {
      level := .str line.level.word
      logger := .str line.logger
      message := .str line.message
      arguments := .several []
      created := .float time.secondsDouble
      failure := .none
      file := .null
      line := .null
      function := .null
      blocked := false
      extra := [] }
    match record.jsonLine .reading (.str "") with
    | .ok text => text
    | .error _ => plain
  else plain

/-- The surroundings of a run. No server can be reached. -/
def context (settings : ActiveSettings) (clock : DateTime) (id : String) : Context where
  settings := settings
  clock := clock
  requestId := .str ""
  freshId := fun _ => id
  issued := 0
  server := fun _ _ => .failure "ConnectError" "no network"
  sent := []
  log := []
  metrics := .fresh
  elapsed := "0.0000s"

/-- The file that a command line names, as all the files there are. -/
def filesFor (settings : ActiveSettings) (arguments : List String) : IO Files := do
  match Arguments.read settings.defaultSalience arguments with
  | .ok a =>
    let content ← readFile a.graphFile
    return fun name => if name = a.graphFile then content else .error .missing
  | .error _ => return fun _ => .error .missing

end Promotion.Main

open Promotion Promotion.Main in
def main (arguments : List String) : IO UInt32 := do
  let err ← IO.getStderr
  match Settings.read [] (← environment) with
  | .error _ =>
    err.putStr "ERROR: Invalid settings\n"
    return 1
  | .ok settings =>
    let settings := settings.active
    let clock ← now
    let files ← filesFor settings arguments
    let (outcome, lines, _) := CommandLine.run files arguments (context settings clock (← randomId))
    for line in lines do
      err.putStrLn (logText settings clock line)
    match outcome with
    | .ok report =>
      IO.print report.output
      err.putStr report.errors
      return UInt32.ofNat report.exit
    | .error _ =>
      err.putStr "ERROR: The run was broken off\n"
      return 1
