import ReportPlan.Json.Basic
import ReportPlan.Report.Basic

/-! # Reports in JSON

Every type of the data model has a function `toJson` and a function `ofJson?` that reads it back.

* A structure is an object. It is also read from the list of its fields in order; keys that it
  does not have are ignored.
* An operand has no mark of its kind: a number, a string and a list of strings tell themselves
  apart.
* An enumeration is a string; an object with the string as its only key and null under it is read
  too.
* Grouping, order and limit are left out when absent. Absent or null, they and the bounds of a
  window are read as absent.
-/

set_option autoImplicit false

namespace ReportPlan

/-! ## Shapes -/

namespace Json

/-- The values of the named fields of a structure, from an object or from the list of its fields. -/
def fields? (keys : List String) : Json → Option (List (Option Json))
  | .object entries => some (keys.map fun key => (object entries).get? key)
  | .list items => if items.length = keys.length then some (items.map some) else none
  | _ => none

/-- The name of a constructor of an enumeration. -/
def constructor? : Json → Option String
  | .text s => some s
  | .object [(s, .null)] => some s
  | _ => none

def asText? : Json → Option String
  | .text s => some s
  | _ => none

/-- A list whose items are all read by a reader. -/
def asList? {α : Type} (item? : Json → Option α) : Json → Option (List α)
  | .list items => items.mapM item?
  | _ => none

/-- A field that may be absent or null. -/
def optional? {α : Type} (read? : Json → Option α) : Option Json → Option (Option α)
  | none => some none
  | some .null => some none
  | some j => (read? j).map some

def ofTexts (items : List String) : Json :=
  .list (items.map .text)

end Json

/-! ## Enumerations and operands -/

/-- A value of an enumeration, from its name. -/
def Json.named? {α : Type} (ofName? : String → Option α) (j : Json) : Option α :=
  j.constructor?.bind ofName?

def ReportType.toJson (t : ReportType) : Json :=
  .text t.name

def ReportType.ofJson? : Json → Option ReportType :=
  Json.named? ofName?

def Operator.toJson (o : Operator) : Json :=
  .text o.name

def Operator.ofJson? : Json → Option Operator :=
  Json.named? ofName?

def Direction.toJson (d : Direction) : Json :=
  .text d.name

def Direction.ofJson? : Json → Option Direction :=
  Json.named? ofName?

def Aggregation.toJson (a : Aggregation) : Json :=
  .text a.name

def Aggregation.ofJson? : Json → Option Aggregation :=
  Json.named? ofName?

def Operand.toJson : Operand → Json
  | number x => .floating x
  | text s => .text s
  | texts items => Json.ofTexts items

def Operand.ofJson? : Json → Option Operand
  | .number n => some (.number n.value)
  | .text s => some (.text s)
  | .list items => (items.mapM Json.asText?).map .texts
  | _ => none

/-! ## Parts of a report -/

def Filter.toJson (f : Filter) : Json :=
  .object
    [("field", .text f.field), ("operator", f.operator.toJson), ("value", f.value.toJson)]

def Filter.ofJson? (j : Json) : Option Filter :=
  match j.fields? ["field", "operator", "value"] with
  | some [some field, some operator, some value] => do
    some ⟨← field.asText?, ← Operator.ofJson? operator, ← Operand.ofJson? value⟩
  | _ => none

def Instant.toJson (i : Instant) : Json :=
  .text (String.ofList i.text)

def Instant.ofJson? : Json → Option Instant
  | .text s => Timestamp.readLenient? s.toList
  | _ => none

def Window.toJson (w : Window) : Json :=
  let bound (b : Option Instant) : Json := (b.map Instant.toJson).getD .null
  .object [("start", bound w.start), ("end", bound w.stop)]

def Window.ofJson? (j : Json) : Option Window :=
  match j.fields? ["start", "end"] with
  | some [start, stop] => do
    some ⟨← Json.optional? Instant.ofJson? start, ← Json.optional? Instant.ofJson? stop⟩
  | _ => none

def SortSpec.toJson (s : SortSpec) : Json :=
  .object [("field", .text s.field), ("direction", s.direction.toJson)]

def SortSpec.ofJson? (j : Json) : Option SortSpec :=
  match j.fields? ["field", "direction"] with
  | some [some field, some direction] => do
    some ⟨← field.asText?, ← Direction.ofJson? direction⟩
  | _ => none

/-- A limit is an integer within its bounds; a whole number with a fraction is none. -/
def limitOfJson? : Json → Option (Fin (greatestLimit + 1))
  | .number (.integer (.ofNat n)) =>
    if h : n < greatestLimit + 1 then some ⟨n, h⟩ else none
  | _ => none

/-! ## Reports -/

/-- The keys of a report, in the order in which they are written. -/
def Report.keys : List String :=
  ["reportType", "reportName", "filters", "metrics", "groupBy", "sortBy", "limit", "dateRange",
    "aggregations"]

/-- An entry of an object that is left out when it has no value. -/
def entryIfPresent (key : String) : Option Json → List (String × Json)
  | none => []
  | some j => [(key, j)]

def Report.toJson (r : Report) : Json :=
  .object <|
    [("reportType", r.reportType.toJson), ("reportName", .text r.name),
      ("filters", .list (r.filters.map Filter.toJson)), ("metrics", Json.ofTexts r.metrics)] ++
    entryIfPresent "groupBy" (r.groupBy.map Json.ofTexts) ++
    entryIfPresent "sortBy" (r.sortBy.map SortSpec.toJson) ++
    entryIfPresent "limit" (r.limit.map fun n => .integer (n.val : Int)) ++
    [("dateRange", r.window.toJson),
      ("aggregations", .list (r.aggregations.map Aggregation.toJson))]

def Report.ofJson? (j : Json) : Option Report :=
  match j.fields? Report.keys with
  | some [some reportType, some name, some filters, some metrics, groupBy, sortBy, limit,
      some window, some aggregations] => do
    some {
      reportType := ← ReportType.ofJson? reportType
      name := ← name.asText?
      filters := ← filters.asList? Filter.ofJson?
      metrics := ← metrics.asList? Json.asText?
      groupBy := ← Json.optional? (Json.asList? Json.asText?) groupBy
      sortBy := ← Json.optional? SortSpec.ofJson? sortBy
      limit := ← Json.optional? limitOfJson? limit
      window := ← Window.ofJson? window
      aggregations := ← aggregations.asList? Aggregation.ofJson? }
  | _ => none

end ReportPlan
