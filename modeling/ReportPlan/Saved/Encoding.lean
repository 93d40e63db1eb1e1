import ReportPlan.Report.Encoding
import ReportPlan.Saved.Basic

/-! # Saved reports in JSON

* `SavedReport.toJson`: the object that a store keeps.
* `SavedReport.ofJson?`: reads it back; identifiers in any of their forms.
-/

set_option autoImplicit false

namespace ReportPlan

def Uuid.toJson (u : Uuid) : Json :=
  .text (String.ofList u.text)

def Uuid.ofJson? : Json → Option Uuid
  | .text s => read? s.toList
  | _ => none

def SavedReport.toJson (s : SavedReport) : Json :=
  .object
    [("id", s.id.toJson), ("name", .text s.name), ("query", .text s.query),
     ("tags", Json.ofTexts s.tags), ("createdAt", s.created.toJson),
     ("config", s.report.toJson)]

def SavedReport.ofJson? (j : Json) : Option SavedReport :=
  match j.fields? ["id", "name", "query", "tags", "createdAt", "config"] with
  | some [some id, some name, some query, some tags, some created, some report] => do
    some {
      id := ← Uuid.ofJson? id
      name := ← name.asText?
      query := ← query.asText?
      tags := ← tags.asList? Json.asText?
      created := ← Instant.ofJson? created
      report := ← Report.ofJson? report }
  | _ => none

end ReportPlan
