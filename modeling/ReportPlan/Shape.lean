import ReportPlan.Lexicon.Basic
import ReportPlan.Matching
import ReportPlan.Pattern

/-! # The shape of a report

What a query says about columns, grouping, order, number of rows and statistics.

* `metricsIn`: the columns of every metric keyword, each once; the default columns of the report
  type if there is none.
* `groupingIn`: the fields of the grouping phrases.
* `sortIn`: the order, if the query asks for one and names a field to sort by.
* `limitIn`: the number after `top`, or else after `first`.
* `aggregationsIn`: the statistics whose keywords occur.
-/

set_option autoImplicit false

namespace ReportPlan

/-! ## Columns -/

/-- The columns that the metric keywords of a text select. -/
def namedMetrics (mode : MatchMode) (lexicon : Lexicon) (text : List Char) : List String :=
  ((lexicon.metrics.filter fun e => mode.has text e.surface).flatMap (·.value)).eraseDups

def metricsIn (mode : MatchMode) (lexicon : Lexicon) (type : ReportType) (text : List Char) :
    List String :=
  let named := namedMetrics mode lexicon text
  if named.isEmpty then defaultColumns type else named

/-! ## Grouping and order -/

def groupings : List (String × String) :=
  [("by counterparty", "counterparty"),
   ("by product", "product_type"),
   ("by trader", "trader"),
   ("by desk", "desk"),
   ("by sector", "sector"),
   ("by date", "trade_date")]

/-- The fields that rows are grouped by; absent if the text has no grouping phrase. -/
def groupingIn (mode : MatchMode) (text : List Char) : Option (List String) :=
  let fields := (groupings.filter fun g => mode.has text g.1).map (·.2)
  if fields.isEmpty then none else some fields

/-- The phrases that ask for an order. -/
def sortPhrases : List String :=
  ["sorted by", "order by"]

/-- The keywords for fields to sort by; the first one that occurs counts. -/
def sortFields : List (String × String) :=
  [("volume", "amount_ngn"), ("exposure", "current_exposure"), ("date", "trade_date")]

def sortIn (mode : MatchMode) (text : List Char) : Option SortSpec :=
  if mode.hasAny text sortPhrases then
    (sortFields.find? fun f => mode.has text f.1).map fun f =>
      ⟨f.2, if mode.has text "ascending" then .ascending else .descending⟩
  else none

/-! ## Number of rows -/

open Pattern in
/-- A word and a number behind it. -/
def countAfter (s : String) : Pattern Unit :=
  word s ++ gap ++ capture () digitRun

/-- The row limit that a captured number gives. Zero is no limit, nor is a number that is too
large. -/
def limitOfNumeral? (numeral : List Char) : Option (Fin (greatestLimit + 1)) := do
  let n ← readNat numeral
  if h : 0 < n ∧ n < greatestLimit + 1 then some ⟨n, h.2⟩ else none

/-- The row limit of a text. A number after `first` is looked at only if none is after `top`. -/
def limitIn (text : List Char) : Option (Fin (greatestLimit + 1)) := do
  let m ← ((countAfter "top").find? text).orElse fun _ => (countAfter "first").find? text
  let numeral ← m.get? ()
  limitOfNumeral? numeral.text

/-! ## Statistics -/

def Aggregation.keywords : Aggregation → List String
  | sum => ["total", "sum"]
  | avg => ["average", "avg"]
  | count => ["count"]
  | max => ["maximum", "max"]
  | min => ["minimum", "min"]

/-- The statistics that a text asks for, in the order of all statistics. -/
def aggregationsIn (mode : MatchMode) (text : List Char) : List Aggregation :=
  Aggregation.all.filter fun a => mode.hasAny text a.keywords

/-! ## First facts -/

theorem groupingIn_ne_some_nil (mode : MatchMode) (text : List Char) :
    groupingIn mode text ≠ some [] := by
  simp only [groupingIn]
  split
  · simp
  · rename_i h
    intro heq
    rw [Option.some.injEq] at heq
    rw [heq] at h
    exact h rfl

theorem limitOfNumeral?_pos {numeral : List Char} {n : Fin (greatestLimit + 1)}
    (h : limitOfNumeral? numeral = some n) : 0 < n.val := by
  simp only [limitOfNumeral?, Option.bind_eq_bind, Option.bind_eq_some_iff] at h
  obtain ⟨m, -, hm⟩ := h
  split at hm
  · rename_i hpos
    cases hm
    exact hpos.1
  · cases hm

end ReportPlan
