import ReportPlan.Report.Basic

/-! # Lexicons

A lexicon maps surfaces, the words as they appear in queries, to the values that stand for them in
reports.

* `Entry`: a surface and its value: one canonical name, or several values.
* `Lexicon`: the five tables of one compiler. Table order is the order in which values appear.
* `builtin`: the lexicon without any configuration.
* `defaultColumns`: the columns of a report type when no metric was named.
-/

set_option autoImplicit false

namespace ReportPlan

structure Entry (α : Type) where
  surface : String
  value : α
  deriving DecidableEq, Repr

structure Lexicon where
  /-- Surfaces of counterparties; in title case they are the values. -/
  counterparties : List String
  products : List (Entry (List String))
  traders : List (Entry String)
  desks : List (Entry String)
  /-- Keywords and the columns that they select. -/
  metrics : List (Entry (List String))
  deriving DecidableEq, Repr

namespace Lexicon

/-! ## The built-in tables -/

def builtinCounterparties : List String :=
  ["firstbank", "access bank", "zenith bank", "gtbank", "uba", "stanbic ibtc", "fidelity bank",
    "union bank", "ecobank", "sterling bank", "wema bank", "fcmb", "citibank",
    "standard chartered", "dangote cement", "mtn nigeria", "nnpc"]

def builtinProducts : List (Entry (List String)) :=
  [⟨"fx spot", ["FX Spot"]⟩,
   ⟨"spot", ["FX Spot"]⟩,
   ⟨"fx forward", ["FX Forward"]⟩,
   ⟨"forward", ["FX Forward"]⟩,
   ⟨"fx swap", ["FX Swap"]⟩,
   ⟨"swap", ["FX Swap"]⟩,
   ⟨"ndf", ["NDF"]⟩,
   ⟨"fx", ["FX Spot", "FX Forward"]⟩,
   ⟨"treasury bill", ["Treasury Bills"]⟩,
   ⟨"t-bill", ["Treasury Bills"]⟩,
   ⟨"bond", ["FGN Bonds"]⟩,
   ⟨"money market", ["Money Market"]⟩,
   ⟨"placement", ["Money Market"]⟩]

def builtinTraders : List (Entry String) :=
  [⟨"adebayo", "Adebayo Ogunleye"⟩,
   ⟨"chioma", "Chioma Eze"⟩,
   ⟨"emeka", "Emeka Nwosu"⟩,
   ⟨"funke", "Funke Adeyemi"⟩,
   ⟨"ibrahim", "Ibrahim Musa"⟩]

def builtinDesks : List (Entry String) :=
  [⟨"fx desk", "FX Desk"⟩,
   ⟨"money market desk", "Money Market Desk"⟩,
   ⟨"fixed income", "Fixed Income Desk"⟩,
   ⟨"treasury desk", "Treasury Desk"⟩,
   ⟨"derivatives", "Derivatives Desk"⟩]

def builtinMetrics : List (Entry (List String)) :=
  [⟨"volume", ["amount_ngn", "trade_count"]⟩,
   ⟨"amount", ["amount_ngn"]⟩,
   ⟨"exposure", ["current_exposure", "credit_limit", "utilization_pct"]⟩,
   ⟨"utilization", ["utilization_pct"]⟩,
   ⟨"credit limit", ["credit_limit"]⟩,
   ⟨"pnl", ["realized_pnl", "unrealized_pnl", "total_pnl"]⟩,
   ⟨"p&l", ["realized_pnl", "unrealized_pnl", "total_pnl"]⟩,
   ⟨"profit", ["total_pnl"]⟩,
   ⟨"exchange rate", ["exchange_rate"]⟩,
   ⟨"risk", ["risk_category", "risk_score"]⟩,
   ⟨"settlement", ["settlement_status", "settlement_date"]⟩,
   ⟨"kyc", ["kyc_status", "last_review_date"]⟩,
   ⟨"cash", ["cash_balance", "net_position"]⟩,
   ⟨"liquidity", ["cash_balance", "inflows", "outflows", "net_position"]⟩]

def builtin : Lexicon where
  counterparties := builtinCounterparties
  products := builtinProducts
  traders := builtinTraders
  desks := builtinDesks
  metrics := builtinMetrics

end Lexicon

/-- The columns of a report type when no metric was named. -/
def defaultColumns : ReportType → List String
  | .transactions =>
    ["trade_id", "trade_date", "counterparty", "product_type", "amount_ngn", "exchange_rate",
      "status"]
  | .counterparties =>
    ["counterparty_name", "sector", "credit_rating", "credit_limit", "current_exposure",
      "risk_category"]
  | .exposure =>
    ["counterparty", "credit_limit", "current_exposure", "utilization_pct", "risk_category"]
  | .pnl =>
    ["trade_date", "product_type", "desk", "realized_pnl", "unrealized_pnl", "total_pnl"]
  | .compliance =>
    ["counterparty", "kyc_status", "aml_flag", "last_review_date", "risk_category"]
  | .liquidity =>
    ["date", "currency", "cash_balance", "inflows", "outflows", "net_position"]
  | .generic => []

end ReportPlan
