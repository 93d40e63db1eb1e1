import ReportPlan.Matching
import ReportPlan.Report.Basic

/-! # Report types of queries

A query belongs to the first type of a ladder one of whose keywords it contains, so a query about
trades and exposure is about trades.

* `typeLadder`: the types in order, with their keywords.
* `classify`: the type of a query; generic if no keyword is there.
-/

set_option autoImplicit false

namespace ReportPlan

/-- The report types in the order in which they are tried, with their keywords. -/
def typeLadder : List (ReportType × List String) :=
  [(.transactions, ["transaction", "transactions", "trade", "trades"]),
   (.counterparties, ["counterparty", "counterparties", "client", "clients"]),
   (.exposure, ["exposure", "exposures", "credit"]),
   (.pnl, ["pnl", "p&l", "profit"]),
   (.compliance, ["compliance", "kyc", "aml"]),
   (.liquidity, ["liquidity", "cash"])]

def classify (mode : MatchMode) (text : List Char) : ReportType :=
  match typeLadder.find? fun rung => mode.hasAny text rung.2 with
  | some (type, _) => type
  | none => .generic

end ReportPlan
