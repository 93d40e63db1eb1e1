import ReportPlan.CommandLine.Arguments
import ReportPlan.CommandLine.Trace
import ReportPlan.Config.Loading
import ReportPlan.Lexicon.Encoding
import ReportPlan.Log.Filter

/-! # Runs of the program

A run is a function of its arguments and its surroundings. It reads the command line, loads the
configuration, opens the log if one is wanted, checks the lexicon, and carries out the command. The
first step that fails ends the run, and then nothing is printed.

* `Surroundings`: what a run finds around it.
* `Failure`: why a run fails; `Failure.exitCode` and `Failure.message` are what is seen of it.
* `Outcome`: what a run prints and logs.
* `Command.perform`: what a command prints and logs once a compiler is there.
* `run`: a run.
-/

set_option autoImplicit false

namespace ReportPlan.CommandLine

/-! ## Surroundings and outcomes -/

structure Surroundings where
  /-- What a path leads to. -/
  file : String → FileState
  home : Option String
  /-- The match mode that the environment asks for. -/
  modeOverride : Option String
  /-- Whether a path is a directory or can be made one. -/
  canHoldLogs : String → Bool
  now : Instant
  /-- The identifier for a report that is saved. -/
  id : Uuid
  /-- The help text for a command line. -/
  help : List String → String := fun _ => ""

inductive Failure where
  | usage (e : UsageError)
  | config (path : String) (e : ConfigError)
  | logDirectory (path : String)
  | lexicon (e : LexiconError)
  deriving DecidableEq, Repr

namespace Failure

def exitCode : Failure → Nat
  | usage _ => 2
  | _ => 1

def message : Failure → String
  | usage e => e.message
  | config path e => e.message ++ " at " ++ path
  | logDirectory path => "failed to create logs directory " ++ path
  | lexicon e => "invalid lexicon configuration: " ++ e.message

end Failure

/-- The records that a run leaves in a directory. -/
structure Log where
  directory : String
  records : List LogRecord

namespace Log

/-- The file of a log, one for each day. -/
def file (l : Log) (now : Instant) : String :=
  joinPath l.directory ("reportql.log." ++ String.ofList now.date.text)

/-- What is added to the file: a line for each record. -/
def lines (l : Log) (now : Instant) : String :=
  String.ofList (l.records.flatMap fun r => (r.toJsonAt now.text).compact ++ ['\n'])

end Log

structure Outcome where
  result : Except Failure String
  log : Option Log

def Outcome.exitCode (o : Outcome) : Nat :=
  match o.result with
  | .ok _ => 0
  | .error e => e.exitCode

/-- What a run writes to the standard output. -/
def Outcome.output (o : Outcome) : String :=
  match o.result with
  | .ok s => s
  | .error _ => ""

/-- A run ends with code 0 exactly if it does not fail. -/
theorem Outcome.exitCode_eq_zero_iff (o : Outcome) :
    o.exitCode = 0 ↔ ∃ s, o.result = .ok s := by
  rw [exitCode]
  split
  · rename_i s h
    exact ⟨fun _ => ⟨s, h⟩, fun _ => rfl⟩
  · rename_i e h
    refine ⟨fun h0 => ?_, fun ⟨s, hs⟩ => ?_⟩
    · cases e <;> cases h0
    · rw [h] at hs
      cases hs

theorem Outcome.output_of_error {o : Outcome} {e : Failure} (h : o.result = .error e) :
    o.output = "" := by
  rw [output, h]

/-! ## Configurations -/

/-- The configuration of a run: a file that is named has to be there; the one under the home
directory may be missing. The environment counts more than either. -/
def Surroundings.loadConfig (w : Surroundings) (path : Option String) : Except Failure Config :=
  match path, w.home with
  | some path, _ =>
    ((Config.load (w.file path)).map (·.override w.modeOverride)).mapError (.config path)
  | none, some home =>
    ((Config.loadOrDefault (w.file (configFile home))).map
      (·.override w.modeOverride)).mapError (.config (configFile home))
  | none, none => .ok (({} : Config).override w.modeOverride)

def compilerOf (c : Config) : Except Failure Compiler :=
  (Compiler.configure c.lexicon c.mode).mapError .lexicon

/-! ## Commands -/

/-- A line with a JSON value, over several lines if it is to be pretty. -/
def jsonLine (pretty : Bool) (j : Json) : String :=
  String.ofList ((if pretty then j.pretty else j.compact) ++ ['\n'])

/-- The name of a match mode in the report on a configuration. -/
def modeTitle : MatchMode → String
  | .substring => "Substring"
  | .wordBoundary => "WordBoundary"

def configLine (c : Compiler) : String :=
  let size (n : Nat) (what : String) : String := String.ofList (digits n) ++ " " ++ what
  let l := c.lexicon
  "Configuration is valid: " ++ size l.counterparties.length "counterparties, " ++
    size l.products.length "products, " ++ size l.traders.length "traders, " ++
    size l.desks.length "desks, " ++ size l.metrics.length "metric groups (match mode: " ++
    modeTitle c.mode ++ ")\n"

def Command.perform (w : Surroundings) (pretty : Bool) (c : Compiler) :
    Command → String × List LogRecord
  | .parse query now compact save =>
    let now := now.getD w.now
    let report := c.compile query now
    let pretty := pretty && !compact
    match save with
    | none => (jsonLine pretty report.toJson, compileRecords c query now)
    | some e =>
      let saved := report.save w.id w.now e.name query e.tags
      (jsonLine pretty saved.toJson, compileRecords c query now ++ [savedRecord saved])
  | .summary query now =>
    let now := now.getD w.now
    ((c.compile query now).summary ++ "\n", compileRecords c query now)
  | .lexicon => (jsonLine pretty c.lexicon.toJson, [])
  | .checkConfig => (configLine c, [])

def Invocation.perform (w : Surroundings) (config : Config) (i : Invocation) :
    Except Failure (String × List LogRecord) := do
  return i.command.perform w config.pretty (← compilerOf config)

/-- The records of a result that a filter keeps; a failure has none. -/
def recordsOf (f : LogFilter) : Except Failure (String × List LogRecord) → List LogRecord
  | .ok (_, records) => records.filter f.admits
  | .error _ => []

def Invocation.run (w : Surroundings) (i : Invocation) : Outcome :=
  match w.loadConfig i.config with
  | .error e => ⟨.error e, none⟩
  | .ok config =>
    let result := i.perform w config
    match i.logDir with
    | none => ⟨result.map (·.1), none⟩
    | some path =>
      if w.canHoldLogs path then
        ⟨result.map (·.1), some ⟨path, recordsOf (.ofText config.level) result⟩⟩
      else ⟨.error (.logDirectory path), none⟩

/-! ## The program -/

def versionLine : String :=
  "reportql 0.1.0\n"

def run (w : Surroundings) (args : List String) : Outcome :=
  match Request.read args with
  | .error e => ⟨.error (.usage e), none⟩
  | .ok .help => ⟨.ok (w.help args), none⟩
  | .ok .version => ⟨.ok versionLine, none⟩
  | .ok (.invoke i) => i.run w

end ReportPlan.CommandLine
