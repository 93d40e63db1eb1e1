import ReportPlan.Report.Basic
import ReportPlan.Saved.Uuid

/-! # Saved reports

A report is saved together with the query that it was compiled from, a name and tags.

* `SavedReport`: the report and what is kept with it.
* `cleanTags`: tags without blanks at their ends, without empty ones, each once in the order of
  first appearance.
* `savedName`: the chosen name, or the name of the report if that is blank.
* `Report.save`: packs a report.
-/

set_option autoImplicit false

namespace ReportPlan

structure SavedReport where
  id : Uuid
  name : String
  /-- The query as it was typed. -/
  query : String
  tags : List String
  created : Instant
  report : Report
  deriving DecidableEq, Repr

/-- Tags without the blanks at their ends, without empty ones, each once. -/
def cleanTags (tags : List String) : List String :=
  ((tags.map (·.trimBlanks)).filter fun t => t ≠ "").eraseDups

/-- The chosen name without the blanks at its ends; the name of the report if nothing is left. -/
def savedName (chosen : String) (r : Report) : String :=
  if chosen.trimBlanks = "" then r.name else chosen.trimBlanks

/-- Packs a report with its query, a chosen name and tags. -/
def Report.save (r : Report) (id : Uuid) (created : Instant) (chosen query : String)
    (tags : List String) : SavedReport where
  id := id
  name := savedName chosen r
  query := query
  tags := cleanTags tags
  created := created
  report := r

end ReportPlan
