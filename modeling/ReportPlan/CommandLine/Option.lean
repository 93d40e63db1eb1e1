import ReportPlan.Calendar.Timestamp

/-! # Options of the command line

* `OptionName`: the options; `OptionName.text` is how one is written.
* `Argument`: how an argument reads on its own: as an option, as the mark that ends the options, or
  as plain text. `Argument.of` tells them apart.
* `Settings`: what the options given so far say; `Settings.set` adds one.
* `UsageError`: what is wrong with a command line; `UsageError.message` is the text shown.
-/

set_option autoImplicit false

namespace ReportPlan.CommandLine

/-! ## Names -/

inductive OptionName where
  | config
  | logDir
  | now
  | compact
  | saveAs
  | tag
  deriving DecidableEq, Repr

namespace OptionName

/-- The name of an option, without its dashes. -/
def text : OptionName → String
  | config => "config"
  | logDir => "log-dir"
  | now => "now"
  | compact => "compact"
  | saveAs => "save-as"
  | tag => "tag"

def takesValue : OptionName → Bool
  | compact => false
  | _ => true

end OptionName

/-! ## Arguments -/

inductive Argument where
  | plain (text : String)
  /-- The mark behind which all arguments are plain. -/
  | escape
  /-- An option, with the value behind its equals sign. -/
  | long (name : String) (value : Option String)
  /-- A cluster of one-letter options. -/
  | short (letter : Char) (others : List Char)
  deriving DecidableEq, Repr

/-- Splits the text behind two dashes at its first equals sign. -/
def Argument.ofLong (s : List Char) : Argument :=
  let name := s.takeWhile (· ≠ '=')
  match s.dropWhile (· ≠ '=') with
  | [] => .long (String.ofList name) none
  | _ :: value => .long (String.ofList name) (some (String.ofList value))

/-- How an argument reads. A single dash is plain text. -/
def Argument.of (s : String) : Argument :=
  match s.toList with
  | ['-', '-'] => .escape
  | '-' :: '-' :: rest => .ofLong rest
  | '-' :: letter :: others => .short letter others
  | _ => .plain s

/-! ## Errors -/

inductive UsageError where
  | unknownOption (text : String)
  | missingValue (option : OptionName)
  | emptyValue (option : OptionName)
  | unexpectedValue (option : String)
  | repeated (option : OptionName)
  | invalidInstant (text : String)
  | unexpectedArgument (text : String)
  | missingQuery
  | missingCommand
  | unknownCommand (text : String)
  | tagWithoutName
  deriving DecidableEq, Repr

def UsageError.message : UsageError → String
  | unknownOption s => "unexpected option '" ++ s ++ "'"
  | missingValue o => "option '--" ++ o.text ++ "' needs a value"
  | emptyValue o => "the value of option '--" ++ o.text ++ "' is empty"
  | unexpectedValue s => "option '--" ++ s ++ "' takes no value"
  | repeated o => "option '--" ++ o.text ++ "' is given twice"
  | invalidInstant s => "'" ++ s ++ "' is not an RFC 3339 timestamp"
  | unexpectedArgument s => "unexpected argument '" ++ s ++ "'"
  | missingQuery => "a query is needed"
  | missingCommand => "a command is needed"
  | unknownCommand s => "unknown command '" ++ s ++ "'"
  | tagWithoutName => "option '--tag' needs option '--save-as'"

/-! ## Settings -/

structure Settings where
  config : Option String := none
  logDir : Option String := none
  now : Option Instant := none
  compact : Bool := false
  saveAs : Option String := none
  /-- The tags, the last one first. -/
  tags : List String := []
  deriving DecidableEq, Repr

namespace Settings

/-- Adds an option with its value. Paths are not empty; every option but the tag is given once. -/
def set (s : Settings) (o : OptionName) (value : String) : Except UsageError Settings :=
  match o with
  | .config =>
    if s.config.isSome then .error (.repeated o)
    else if value = "" then .error (.emptyValue o)
    else .ok { s with config := some value }
  | .logDir =>
    if s.logDir.isSome then .error (.repeated o)
    else if value = "" then .error (.emptyValue o)
    else .ok { s with logDir := some value }
  | .now =>
    if s.now.isSome then .error (.repeated o)
    else
      match Timestamp.readStrict? value.toList with
      | some i => .ok { s with now := some i }
      | none => .error (.invalidInstant value)
  | .compact => if s.compact then .error (.repeated o) else .ok { s with compact := true }
  | .saveAs =>
    if s.saveAs.isSome then .error (.repeated o) else .ok { s with saveAs := some value }
  | .tag => .ok { s with tags := value :: s.tags }

end Settings

end ReportPlan.CommandLine
