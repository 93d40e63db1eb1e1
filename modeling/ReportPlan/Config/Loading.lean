import ReportPlan.Config.Decoding

/-! # Loading configurations

* `FileState`: what a path leads to.
* `Config.load`: the configuration of a file that has to be there.
* `Config.loadOrDefault`: the configuration of a file that may be missing.
* `configDirectory`, `configFile`: where that file lies under a home directory.
* `ConfigError`: why there is no configuration; `ConfigError.message` is the text shown.
-/

set_option autoImplicit false

namespace ReportPlan

inductive FileState where
  | missing
  /-- Something that cannot be read as a text. -/
  | unreadable
  | text (s : String)
  deriving DecidableEq, Repr

inductive ConfigError where
  /-- A text is no configuration. -/
  | malformedText
  /-- A file cannot be read. -/
  | unreadableFile
  /-- The text of a file is no configuration. -/
  | malformedFile
  deriving DecidableEq, Repr

def ConfigError.message : ConfigError → String
  | malformedText => "failed to parse config TOML"
  | unreadableFile => "failed to read config"
  | malformedFile => "failed to parse config"

namespace Config

/-- The configuration that a text writes, with the given error if it writes none. -/
def read (error : ConfigError) (s : String) : Except ConfigError Config :=
  match ofText? s with
  | some c => .ok c
  | none => .error error

def ofText (s : String) : Except ConfigError Config :=
  read .malformedText s

/-- The configuration of a file that has to be there. -/
def load : FileState → Except ConfigError Config
  | .text s => read .malformedFile s
  | .missing => .error .unreadableFile
  | .unreadable => .error .unreadableFile

/-- The configuration of a file, or the default one if the file is missing. -/
def loadOrDefault : FileState → Except ConfigError Config
  | .missing => .ok {}
  | file => load file

end Config

/-! ## Where the file lies -/

/-- A name under a directory, divided by one slash. -/
def joinPath (directory name : String) : String :=
  if directory.toList.getLast? = some '/' then directory ++ name else directory ++ "/" ++ name

def configDirectory (home : String) : String :=
  joinPath home ".reportql"

def configFile (home : String) : String :=
  joinPath (configDirectory home) "config.toml"

end ReportPlan
