import Ferry.CommandLine.Output
import Ferry.Postgres.Snapshot
import Std.Time.DateTime.Timestamp

set_option autoImplicit false

/-! # The program

Files, the environment and the clock. The databases of the configuration are snapshots, so a run
is a rehearsal: it tells what a migration would do and how it would end, and changes nothing. -/

namespace Ferry.Program

/-- What the failure of reading a file says about the file. -/
def contentOfError : IO.Error → FileContent
  | .noFileOrDirectory .. => .missing
  | .permissionDenied .. => .denied
  | .inappropriateType .. => .directory
  | e => .unreadable (toString e)

/-- Read a file. -/
def readFile (path : String) : IO FileContent := do
  try
    return .bytes (← IO.FS.readBinFile path).toList
  catch e =>
    return contentOfError e

/-- The passwords of the environment. -/
def readPasswords : IO Passwords := do
  return ⟨← IO.getEnv "DRIFT_SOURCE_PASSWORD", ← IO.getEnv "DRIFT_TARGET_PASSWORD"⟩

/-- Set up the server of a configuration from its snapshots. -/
def readServer (c : Config) : IO Postgres.Server := do
  let server : Postgres.Server := ⟨[], [], []⟩
  let server := server.addSnapshot c.source (← readFile (Postgres.snapshotPath c.source))
  return server.addSnapshot c.target (← readFile (Postgres.snapshotPath c.target))

/-- Microseconds since the start of the year 2000. -/
def readClock : IO Int := do
  let now ← Std.Time.Timestamp.now
  return now.toNanosecondsSinceUnixEpoch.val / 1000 - 946684800000000

/-- The text of a point in time that is counted in microseconds since the start of the year 2000. -/
def stampText (micros : Int) : String :=
  ((Calendar.Moment.ofMicros? micros).map Calendar.Moment.textStamp).getD ""

/-- A random identifier. -/
def randomId : IO Uuid := do
  let bytes ← IO.getRandomBytes 16
  return Uuid.ofRandom (bytes.toList.foldl (fun w b => (w <<< 8) ||| BitVec.ofNat 128 b.toNat) 0)

/-- Perform a command and print what comes of it. -/
def perform (options : CommandLine.Options) (command : CommandLine.Command) :
    IO CommandLine.Outcome := do
  let file ← readFile options.config
  let passwords ← readPasswords
  let server ← match Config.load file passwords with
    | .ok c => readServer c
    | .error _ => pure default
  let started ← readClock
  let (answer, _) := command.perform file passwords server
  let completed ← readClock
  let elapsed := ((completed - started) / 1000).toNat
  let stamp : RunStamp :=
    ⟨(← randomId).text, stampText started, stampText completed, elapsed⟩
  return CommandLine.outcome options ⟨stamp, elapsed, elapsed⟩ answer

/-- What the program leaves for its arguments. -/
def run (args : List String) : IO CommandLine.Outcome :=
  match CommandLine.parse args with
  | .error issue => return CommandLine.refused issue
  | .ok .version => return CommandLine.versionOutcome
  | .ok .help => return CommandLine.helpOutcome
  | .ok (.perform options command) => perform options command

end Ferry.Program

/-- Perform the command of the arguments. -/
def main (args : List String) : IO UInt32 := do
  let outcome ← Ferry.Program.run args
  IO.print outcome.out
  IO.eprint outcome.err
  return UInt32.ofNat outcome.code
