import ReportPlan.Json.Basic

/-! # Log records

* `Severity`: how much a record matters; the limits of a log filter are severities too.
* `LogRecord`: one line of the log.
-/

set_option autoImplicit false

namespace ReportPlan

/-- How much a record matters. No record has the severity `off`, which is a limit only. -/
inductive Severity where
  | off
  | error
  | warn
  | info
  | debug
  | trace
  deriving DecidableEq, Repr

namespace Severity

def all : List Severity :=
  [off, error, warn, info, debug, trace]

/-- The place of a severity, from the fewest records to the most. -/
def rank : Severity → Nat
  | off => 0
  | error => 1
  | warn => 2
  | info => 3
  | debug => 4
  | trace => 5

/-- The name of a severity, in lower case. -/
def name : Severity → String
  | off => "off"
  | error => "error"
  | warn => "warn"
  | info => "info"
  | debug => "debug"
  | trace => "trace"

end Severity

structure LogRecord where
  severity : Severity
  /-- The part of the program that writes the record. -/
  target : String
  message : String
  fields : List (String × Json)

namespace LogRecord

/-- Whether a record has a field; the message counts as one. -/
def hasField (r : LogRecord) (name : String) : Bool :=
  name == "message" || r.fields.any (·.1 == name)

/-- What a record says, but for the time. -/
def entries (r : LogRecord) : List (String × Json) :=
  [("level", .text (String.ofList (r.severity.name.toList.map Char.toUpper))),
   ("fields", .object (("message", .text r.message) :: r.fields)),
   ("target", .text r.target)]

/-- The object of a record without its time. -/
def toJson (r : LogRecord) : Json :=
  .object r.entries

/-- The object of a record with its time. -/
def toJsonAt (r : LogRecord) (time : List Char) : Json :=
  .object (("timestamp", .text (String.ofList time)) :: r.entries)

end LogRecord
end ReportPlan
