import ReportPlan.Compiler
import ReportPlan.Log.Record
import ReportPlan.Saved.Encoding

/-! # What commands log

* `filterRecords`: one record for every source that finds filters.
* `compileRecords`: the records of compiling a query.
* `savedRecord`: the record of saving a report.
-/

set_option autoImplicit false

namespace ReportPlan.CommandLine

/-- The number of items of a list. -/
def countJson {α : Type} (items : List α) : Json :=
  .integer items.length

/-- The record of a source, unless it finds no filters. -/
def filterRecord? (c : Compiler) (text : List Char) (source : Compiler.FilterSource) :
    Option LogRecord :=
  let found := c.filtersFrom text source
  if found.isEmpty then none
  else some {
    severity := .debug
    target := "reportql::parser"
    message := "filters extracted"
    fields := [("extractor", .text source.name), ("count", countJson found)] }

/-- One record for every source that finds filters in a normalized query. -/
def filterRecords (c : Compiler) (text : List Char) : List LogRecord :=
  Compiler.FilterSource.all.filterMap (filterRecord? c text)

def reportRecord (r : Report) : LogRecord where
  severity := .debug
  target := "reportql::parser"
  message := "query compiled"
  fields :=
    [("report_type", .text r.reportType.name), ("filters", countJson r.filters),
     ("metrics", countJson r.metrics), ("all_time", .bool r.window.isAllTime)]

def compileRecords (c : Compiler) (query : String) (now : Instant) : List LogRecord :=
  filterRecords c (Text.normalize query.toList) ++ [reportRecord (c.compile query now)]

def savedRecord (s : SavedReport) : LogRecord where
  severity := .info
  target := "reportql"
  message := "saved-report envelope built"
  fields := [("id", s.id.toJson), ("name", .text s.name)]

end ReportPlan.CommandLine
