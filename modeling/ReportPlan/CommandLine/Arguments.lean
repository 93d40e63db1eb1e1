import ReportPlan.CommandLine.Option

/-! # Command lines

A command line is a command among options. Options before the command are those that every command
has; options behind it are those and its own. An option given behind the command counts more than
the same one before it.

* `Command`: what is to be done. `Invocation`: a command and the two options that all share.
* `Request`: an invocation, or the wish to see the help text or the version.
* `takeOptions`: reads options up to the first plain argument.
* `Request.read`: reads a command line from left to right. The first fault counts, but the wish for
  help or the version ends the reading.
-/

set_option autoImplicit false

namespace ReportPlan.CommandLine

/-! ## Requests -/

/-- How a report is to be saved. -/
structure Envelope where
  name : String
  tags : List String
  deriving DecidableEq, Repr

/-- What is to be done. Without an instant, relative dates go by the clock. -/
inductive Command where
  /-- Print the report of a query. -/
  | parse (query : String) (now : Option Instant) (compact : Bool) (save : Option Envelope)
  /-- Print the report of a query on one line. -/
  | summary (query : String) (now : Option Instant)
  /-- Print the lexicon. -/
  | lexicon
  /-- Print how large the lexicon is. -/
  | checkConfig
  deriving DecidableEq, Repr

structure Invocation where
  config : Option String
  logDir : Option String
  command : Command
  deriving DecidableEq, Repr

inductive Request where
  | help
  | version
  | invoke (i : Invocation)
  deriving DecidableEq, Repr

/-! ## Reading options -/

inductive Halt where
  | help
  | version
  | misuse (e : UsageError)
  deriving DecidableEq, Repr

inductive Stop where
  /-- At the end of the command line. -/
  | finished
  /-- At a plain argument. -/
  | plain (text : String) (rest : List String)
  /-- At the mark behind which all arguments are plain. -/
  | escaped (rest : List String)
  deriving DecidableEq, Repr

/-- The options known at a place of the command line. -/
structure Known where
  options : List OptionName
  version : Bool

def addOption (s : Settings) (o : OptionName) (value : String) : Except Halt Settings :=
  (s.set o value).mapError .misuse

/-- The outcome of an option without a value that ends the reading. -/
def haltAt {α : Type} (name : String) (halt : Halt) (value : Option String) : Except Halt α :=
  match value with
  | none => .error halt
  | some _ => .error (.misuse (.unexpectedValue name))

/-- Reads options up to the first plain argument. The value of an option stands behind its equals
sign, or is the next argument if that is plain. -/
def takeOptions (known : Known) (s : Settings) : List String → Except Halt (Settings × Stop)
  | [] => .ok (s, .finished)
  | a :: rest =>
    match Argument.of a with
    | .plain text => .ok (s, .plain text rest)
    | .escape => .ok (s, .escaped rest)
    | .short letter _ =>
      if letter = 'h' then .error .help
      else if letter = 'V' ∧ known.version then .error .version
      else .error (.misuse (.unknownOption a))
    | .long name value =>
      if name = "help" then haltAt name .help value
      else if name = "version" ∧ known.version then haltAt name .version value
      else
        match known.options.find? (·.text == name), value with
        | none, _ => .error (.misuse (.unknownOption a))
        | some o, some value =>
          if o.takesValue then do takeOptions known (← addOption s o value) rest
          else .error (.misuse (.unexpectedValue name))
        | some o, none =>
          if o.takesValue then
            match rest with
            | [] => .error (.misuse (.missingValue o))
            | next :: rest =>
              match Argument.of next with
              | .plain value => do takeOptions known (← addOption s o value) rest
              | _ => .error (.misuse (.missingValue o))
          else do takeOptions known (← addOption s o "") rest

/-! ## Reading commands -/

inductive CommandName where
  | parse
  | summary
  | lexicon
  | checkConfig
  deriving DecidableEq, Repr

namespace CommandName

def text : CommandName → String
  | parse => "parse"
  | summary => "summary"
  | lexicon => "lexicon"
  | checkConfig => "check-config"

def all : List CommandName :=
  [parse, summary, lexicon, checkConfig]

def shared : List OptionName :=
  [.config, .logDir]

def options : CommandName → List OptionName
  | parse => shared ++ [.now, .compact, .saveAs, .tag]
  | summary => shared ++ [.now]
  | lexicon => shared
  | checkConfig => shared

def known (c : CommandName) : Known :=
  ⟨c.options, false⟩

end CommandName

def expectEnd : List String → Except Halt Unit
  | [] => .ok ()
  | a :: _ => .error (.misuse (.unexpectedArgument a))

/-- The options of a command that has no query. -/
def readOptions (known : Known) (s : Settings) (args : List String) : Except Halt Settings := do
  match ← takeOptions known s args with
  | (s, .finished) => return s
  | (_, .plain a _) => .error (.misuse (.unexpectedArgument a))
  | (s, .escaped rest) =>
    expectEnd rest
    return s

/-- The options and the query of a command that has one. -/
def readQuery (known : Known) (args : List String) : Except Halt (Settings × String) := do
  match ← takeOptions known {} args with
  | (_, .finished) => .error (.misuse .missingQuery)
  | (s, .plain query rest) => return (← readOptions known s rest, query)
  | (_, .escaped []) => .error (.misuse .missingQuery)
  | (s, .escaped (query :: rest)) =>
    expectEnd rest
    return (s, query)

/-- The wish to save a report. Tags need a name. -/
def envelope (s : Settings) : Except Halt (Option Envelope) :=
  match s.saveAs with
  | some name => .ok (some ⟨name, s.tags.reverse⟩)
  | none => if s.tags.isEmpty then .ok none else .error (.misuse .tagWithoutName)

/-- A command from the arguments behind its name. -/
def readCommand (c : CommandName) (args : List String) : Except Halt (Settings × Command) := do
  match c with
  | .parse =>
    let (s, query) ← readQuery c.known args
    return (s, .parse query s.now s.compact (← envelope s))
  | .summary =>
    let (s, query) ← readQuery c.known args
    return (s, .summary query s.now)
  | .lexicon => return (← readOptions c.known {} args, .lexicon)
  | .checkConfig => return (← readOptions c.known {} args, .checkConfig)

/-- The arguments of the command `help`: at most the name of a command. -/
def readHelp {α : Type} : List String → Except Halt α
  | [] => .error .help
  | a :: rest =>
    if a = "help" ∨ CommandName.all.any (·.text == a) then
      match rest with
      | [] => .error .help
      | a :: _ => .error (.misuse (.unknownCommand a))
    else .error (.misuse (.unknownCommand a))

def Known.top : Known :=
  ⟨CommandName.shared, true⟩

def readInvocation (args : List String) : Except Halt Invocation := do
  match ← takeOptions .top {} args with
  | (_, .finished) => .error (.misuse .missingCommand)
  | (_, .escaped []) => .error (.misuse .missingCommand)
  | (_, .escaped (a :: _)) => .error (.misuse (.unexpectedArgument a))
  | (outer, .plain name rest) =>
    if name = "help" then readHelp rest
    else
      match CommandName.all.find? (·.text == name) with
      | none => .error (.misuse (.unknownCommand name))
      | some c =>
        let (inner, command) ← readCommand c rest
        return ⟨inner.config <|> outer.config, inner.logDir <|> outer.logDir, command⟩

def Request.read (args : List String) : Except UsageError Request :=
  match readInvocation args with
  | .ok i => .ok (.invoke i)
  | .error .help => .ok .help
  | .error .version => .ok .version
  | .error (.misuse e) => .error e

end ReportPlan.CommandLine
