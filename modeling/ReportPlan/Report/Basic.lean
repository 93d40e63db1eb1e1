import ReportPlan.Calendar.Timestamp
import ReportPlan.Naming
import ReportPlan.Number.Shortest
import ReportPlan.Text.Phrase

/-! # Reports

A report is what a query is compiled to: a plan that says which records are wanted, which columns
they are shown with and how they are grouped, sorted and summed up.

* `ReportType`: the domain of a report.
* `Operator`, `Operand`, `Filter`: a condition on one field. The filters of a report hold together.
* `Window`: an inclusive range of time; without bounds it is all time.
* `SortSpec`, `Aggregation`: the order of the rows and their summary statistics.
* `Report`: the plan itself.
-/

set_option autoImplicit false

namespace ReportPlan

/-! ## Report types -/

inductive ReportType where
  /-- Trades and transactions. -/
  | transactions
  /-- Counterparties and clients. -/
  | counterparties
  /-- Credit exposure and the use of limits. -/
  | exposure
  /-- Profit and loss. -/
  | pnl
  /-- Compliance checks. -/
  | compliance
  /-- Cash and liquidity. -/
  | liquidity
  /-- No domain was recognised. -/
  | generic
  deriving DecidableEq, Repr

namespace ReportType

/-- The identifier of a report type, in lower case. -/
def name : ReportType → String
  | transactions => "transactions"
  | counterparties => "counterparties"
  | exposure => "exposure"
  | pnl => "pnl"
  | compliance => "compliance"
  | liquidity => "liquidity"
  | generic => "generic"

def all : List ReportType :=
  [transactions, counterparties, exposure, pnl, compliance, liquidity, generic]

def naming : Naming ReportType where
  values := all
  name := name
  complete := by
    intro x
    cases x <;> decide
  distinct := by decide

def ofName? : String → Option ReportType :=
  naming.ofName?

/-- The identifier with a capital first letter, as it stands in the names of reports. -/
def label (t : ReportType) : String :=
  String.ofList (Text.capitalize t.name.toList)

end ReportType

/-! ## Filters -/

inductive Operator where
  /-- The field is the text. -/
  | equals
  /-- The field is one of the texts. -/
  | oneOf
  /-- The field contains the text. -/
  | contains
  /-- The field is greater than the number. -/
  | greaterThan
  /-- The field is less than the number. -/
  | lessThan
  /-- The field lies between two values. -/
  | between
  deriving DecidableEq, Repr

namespace Operator

def name : Operator → String
  | equals => "equals"
  | oneOf => "in"
  | contains => "contains"
  | greaterThan => "greaterThan"
  | lessThan => "lessThan"
  | between => "between"

def all : List Operator :=
  [equals, oneOf, contains, greaterThan, lessThan, between]

def naming : Naming Operator where
  values := all
  name := name
  complete := by
    intro x
    cases x <;> decide
  distinct := by decide

def ofName? : String → Option Operator :=
  naming.ofName?

end Operator

inductive Operand where
  | number (x : Binary64)
  | text (s : String)
  | texts (items : List String)
  deriving DecidableEq, Repr

namespace Operand

/-- The first text, if there is one. -/
def firstText : Operand → Option String
  | number _ => none
  | text s => some s
  | texts items => items.head?

def allTexts : Operand → List String
  | number _ => []
  | text s => [s]
  | texts items => items

/-- The number, if there is one. -/
def asNumber : Operand → Option Binary64
  | number x => some x
  | _ => none

/-- The written form of numbers in summaries: positional, and nothing after a whole number. -/
def displayLayout : Layout where
  tie := .up
  positional := none
  wholeMark := []
  positiveMark := []
  infinite := fun negative => if negative then ['-', 'i', 'n', 'f'] else ['i', 'n', 'f']

def display : Operand → String
  | number x => String.ofList (displayLayout.render x)
  | text s => s
  | texts items => "[" ++ ", ".intercalate items ++ "]"

end Operand

structure Filter where
  field : String
  operator : Operator
  value : Operand
  deriving DecidableEq, Repr

namespace Filter

def equals (field value : String) : Filter :=
  ⟨field, .equals, .text value⟩

/-- The field is greater than a number. -/
def greaterThan (field : String) (x : Binary64) : Filter :=
  ⟨field, .greaterThan, .number x⟩

/-- The field is less than a number. -/
def lessThan (field : String) (x : Binary64) : Filter :=
  ⟨field, .lessThan, .number x⟩

/-- The field is one of some texts: no condition for none of them, equality for a single one. -/
def anyOf? (field : String) : List String → Option Filter
  | [] => none
  | [value] => some (equals field value)
  | values => some ⟨field, .oneOf, .texts values⟩

def on? (filters : List Filter) (field : String) : Option Filter :=
  filters.find? fun f => f.field == field

def display (f : Filter) : String :=
  f.field ++ " " ++ f.operator.name ++ " " ++ f.value.display

theorem anyOf?_eq_none_iff {field : String} {values : List String} :
    anyOf? field values = none ↔ values = [] := by
  match values with
  | [] => simp [anyOf?]
  | [_] => simp [anyOf?]
  | _ :: _ :: _ => simp [anyOf?]

theorem field_of_anyOf? {field : String} {values : List String} {f : Filter}
    (h : anyOf? field values = some f) : f.field = field := by
  match values with
  | [] => simp [anyOf?] at h
  | [_] => simp only [anyOf?, Option.some.injEq] at h; subst h; rfl
  | _ :: _ :: _ => simp only [anyOf?, Option.some.injEq] at h; subst h; rfl

end Filter

/-! ## Windows of time -/

/-- An inclusive range of time. A bound that is absent does not restrict. -/
structure Window where
  start : Option Instant
  stop : Option Instant
  deriving DecidableEq, Repr

namespace Window

def allTime : Window :=
  ⟨none, none⟩

/-- The window between two instants, of which the first is not after the second. -/
def between (start stop : Instant) : Window :=
  ⟨some start, some stop⟩

def isAllTime (w : Window) : Bool :=
  w.start.isNone && w.stop.isNone

/-- A window in a summary: its first and last day, or all time unless both bounds are there. -/
def display (w : Window) : String :=
  match w.start, w.stop with
  | some start, some stop =>
    String.ofList start.date.text ++ " → " ++ String.ofList stop.date.text
  | _, _ => "all time"

end Window

/-! ## Order and statistics of rows -/

inductive Direction where
  | ascending
  | descending
  deriving DecidableEq, Repr

namespace Direction

def name : Direction → String
  | ascending => "asc"
  | descending => "desc"

def naming : Naming Direction where
  values := [ascending, descending]
  name := name
  complete := by
    intro x
    cases x <;> decide
  distinct := by decide

def ofName? : String → Option Direction :=
  naming.ofName?

end Direction

/-- The field that rows are ordered by, and the direction. -/
structure SortSpec where
  field : String
  direction : Direction
  deriving DecidableEq, Repr

inductive Aggregation where
  | sum
  | avg
  | count
  | max
  | min
  deriving DecidableEq, Repr

namespace Aggregation

def name : Aggregation → String
  | sum => "sum"
  | avg => "avg"
  | count => "count"
  | max => "max"
  | min => "min"

/-- All statistics, in the order in which a report lists them. -/
def all : List Aggregation :=
  [sum, avg, count, max, min]

def naming : Naming Aggregation where
  values := all
  name := name
  complete := by
    intro x
    cases x <;> decide
  distinct := by decide

def ofName? : String → Option Aggregation :=
  naming.ofName?

end Aggregation

/-! ## Reports -/

/-- The greatest number of rows that a report can be limited to. -/
def greatestLimit : Nat :=
  4294967295

structure Report where
  reportType : ReportType
  /-- The name under which the report is shown. -/
  name : String
  /-- Conditions on entities, then on magnitudes, then on states. -/
  filters : List Filter
  /-- The columns shown. -/
  metrics : List String
  /-- The fields that rows are grouped by; absent when no grouping was asked for. -/
  groupBy : Option (List String)
  sortBy : Option SortSpec
  /-- The number of rows shown at most. -/
  limit : Option (Fin (greatestLimit + 1))
  window : Window
  aggregations : List Aggregation
  deriving DecidableEq, Repr

namespace Report

def filterOn? (r : Report) (field : String) : Option Filter :=
  Filter.on? r.filters field

/-- One line that tells the user what was understood: name, filters, window and limit. -/
def summary (r : Report) : String :=
  let filters :=
    if r.filters.isEmpty then "" else " | " ++ "; ".intercalate (r.filters.map (·.display))
  let limit := match r.limit with
    | none => ""
    | some n => " | top " ++ String.ofList (digits n)
  r.name ++ filters ++ " | " ++ r.window.display ++ limit

end Report
end ReportPlan
