import ReportPlan.CommandLine.Run
import Std.Time.DateTime.Timestamp

/-! # The program

The outer layer: it looks up what a run asks for, and prints and logs the outcome of the run. -/

set_option autoImplicit false

namespace ReportPlan.CommandLine

/-- What a path leads to. Where it cannot be followed, also for want of permission, nothing is
there. -/
def fileState (path : String) : IO FileState := do
  try
    discard <| IO.FS.realPath path
  catch _ =>
    return .missing
  try
    return .text (← IO.FS.readFile path)
  catch _ =>
    return .unreadable

/-- Makes a directory, and says whether it is there. -/
def makeDirectory (path : String) : IO Bool := do
  try
    IO.FS.createDirAll path
    return true
  catch _ =>
    return false

def clock : IO Instant := do
  let nanos := (← Std.Time.Timestamp.now).toNanosecondsSinceUnixEpoch.val
  match Instant.ofUnix? (nanos / secondNanos) (nanos % secondNanos).toNat with
  | some now => return now
  | none => throw (IO.userError "the clock is out of range")

def freshId : IO Uuid := do
  return Uuid.random ((← IO.getRandomBytes 16).foldl (fun n b => 256 * n + b.toNat) 0)

def helpText : String :=
  "Deterministic natural-language to structured report query compiler\n\n" ++
  "Usage: reportql [OPTIONS] <COMMAND>\n\n" ++
  "Commands:\n" ++
  "  parse <QUERY>    Print the report specification of a query as JSON\n" ++
  "  summary <QUERY>  Print a one-line summary of the report of a query\n" ++
  "  lexicon          Print the effective lexicon\n" ++
  "  check-config     Validate the configuration and the lexicon extensions\n\n" ++
  "Options:\n" ++
  "  --config <PATH>  Configuration file\n" ++
  "  --log-dir <DIR>  Write JSON logs to this directory\n" ++
  "  --now <INSTANT>  Evaluate relative dates against this RFC 3339 instant\n" ++
  "  --compact        Print single-line JSON (parse)\n" ++
  "  --save-as <NAME> Wrap the report in a saved-report envelope (parse)\n" ++
  "  --tag <TAG>      Tag for the envelope, repeatable (parse)\n" ++
  "  -h, --help       Print help\n" ++
  "  -V, --version    Print version\n"

/-- What a run with given arguments finds around it. Only the paths that it asks for are looked up,
and a log directory is made only when the configuration is there. -/
def lookAround (args : List String) : IO Surroundings := do
  let home := (← IO.getEnv "HOME").filter (· ≠ "")
  let bare : Surroundings := {
    file := fun _ => .missing
    home := home
    modeOverride := ← IO.getEnv "REPORTQL_MATCH_MODE"
    canHoldLogs := fun _ => false
    now := ← clock
    id := ← freshId
    help := fun _ => helpText }
  match Request.read args with
  | .ok (.invoke i) =>
    match i.config <|> home.map configFile with
    | none => withLogs bare i
    | some path =>
      let state ← fileState path
      withLogs { bare with file := fun p => if p = path then state else .missing } i
  | _ => return bare
where
  withLogs (w : Surroundings) (i : Invocation) : IO Surroundings := do
    match i.logDir, w.loadConfig i.config with
    | some path, .ok _ =>
      let made ← makeDirectory path
      return { w with canHoldLogs := fun p => p = path && made }
    | _, _ => return w

/-- Adds the records of a run to their file. -/
def writeLog (now : Instant) (log : Log) : IO Unit := do
  let handle ← IO.FS.Handle.mk (log.file now) .append
  handle.putStr (log.lines now)

/-- Runs the program, and gives its exit code. -/
def execute (args : List String) : IO UInt32 := do
  let w ← lookAround args
  let outcome := run w args
  match outcome.log with
  | some log => writeLog w.now log
  | none => pure ()
  match outcome.result with
  | .ok s => IO.print s
  | .error e => IO.eprintln ("Error: " ++ e.message)
  return outcome.exitCode.toUInt32

end ReportPlan.CommandLine

def main (args : List String) : IO UInt32 :=
  ReportPlan.CommandLine.execute args
