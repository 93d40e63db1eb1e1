import ReportPlan.Entities
import ReportPlan.Matching
import ReportPlan.Report.Basic

/-! # Names of reports

The name of a report joins what is known of it: the report type, the first counterparty, the
products, and a label for the window.

* `windowLabels`: the phrases with a label of their own. They are looked for in the query as it was
  typed, in this letter case and spacing, whichever rule gave the window.
* `title`: the name.
-/

set_option autoImplicit false

namespace ReportPlan

def windowLabels : List (String × String) :=
  [("this month", "This Month"),
   ("last month", "Last Month"),
   ("this quarter", "This Quarter"),
   ("this year", "This Year")]

/-- The label of a window that has none of its own. -/
def otherWindowLabel : String :=
  "Custom Period"

/-- The label of the window of a query as typed. -/
def windowLabel (mode : MatchMode) (query : List Char) : String :=
  match windowLabels.find? fun l => mode.has query l.1 with
  | some (_, label) => label
  | none => otherWindowLabel

/-- The name of a report of which nothing is known. -/
def namelessTitle : String :=
  "Custom Report"

/-- The part of a name that tells the report type. -/
def typePart (type : ReportType) : List String :=
  if type = .generic then [] else [type.label]

/-- The part of a name that tells the first counterparty. -/
def counterpartyPart (filters : List Filter) : List String :=
  ((Filter.on? filters counterpartyField).bind fun f => f.value.firstText).toList

/-- The part of a name that tells the products. -/
def productPart (filters : List Filter) : List String :=
  match Filter.on? filters productField with
  | some f => if f.value.allTexts.isEmpty then [] else [", ".intercalate f.value.allTexts]
  | none => []

/-- The part of a name that tells the window. -/
def windowPart (mode : MatchMode) (query : List Char) (window : Window) : List String :=
  if window.isAllTime then [] else [windowLabel mode query]

def titleParts (mode : MatchMode) (query : List Char) (type : ReportType) (filters : List Filter)
    (window : Window) : List String :=
  typePart type ++ counterpartyPart filters ++ productPart filters ++ windowPart mode query window

def title (mode : MatchMode) (query : List Char) (type : ReportType) (filters : List Filter)
    (window : Window) : String :=
  match titleParts mode query type filters window with
  | [] => namelessTitle
  | parts => " - ".intercalate parts

end ReportPlan
