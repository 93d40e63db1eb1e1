import ReportPlan.Matching
import ReportPlan.Report.Basic

/-! # Filters on states

* `stateKeywords`: the keywords for risk categories and settlement states. Each one that a text
  contains gives a filter of its own.
* `stateFilters`: these filters, and one for active records unless the text says inactive.
-/

set_option autoImplicit false

namespace ReportPlan

/-- A keyword and the condition that it stands for. -/
structure StateKeyword where
  keyword : String
  field : String
  value : String
  deriving DecidableEq, Repr

def riskField : String :=
  "risk_category"

def settlementField : String :=
  "settlement_status"

/-- The field that tells whether a record is active. -/
def lifecycleField : String :=
  "status"

/-- The keywords for states, in the order in which their filters are listed. -/
def stateKeywords : List StateKeyword :=
  [⟨"high risk", riskField, "High"⟩,
   ⟨"medium risk", riskField, "Medium"⟩,
   ⟨"low risk", riskField, "Low"⟩,
   ⟨"settled", settlementField, "Settled"⟩,
   ⟨"pending", settlementField, "Pending"⟩,
   ⟨"failed", settlementField, "Failed"⟩]

/-- Whether a text asks for active records. The word inactive anywhere, also inside a longer word,
excludes it in both modes. -/
def asksForActive (mode : MatchMode) (text : List Char) : Bool :=
  mode.has text "active" && !MatchMode.substring.has text "inactive"

def stateFilters (mode : MatchMode) (text : List Char) : List Filter :=
  ((stateKeywords.filter fun k => mode.has text k.keyword).map fun k =>
      Filter.equals k.field k.value) ++
    if asksForActive mode text then [Filter.equals lifecycleField "Active"] else []

end ReportPlan
