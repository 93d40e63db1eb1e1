import ReportPlan.Pattern
import ReportPlan.Report.Basic

/-! # Magnitude thresholds

A threshold is a metric, a comparison and a number: `volume above ₦2.5bn`. Trade volumes and
exposures are scaled by the word behind the number, utilization is a plain percentage.

* `Metric`: the metrics with thresholds, their fields and the patterns that find them.
* `multiplier`: the factor of a magnitude word.
* `numeralValue?`: the number that a numeral with commas writes.
* `threshold?`: the threshold of one metric in a text; `thresholds` those of all metrics.
-/

set_option autoImplicit false

namespace ReportPlan
namespace Threshold

/-! ## Patterns -/

/-- The parts of a threshold that are captured. -/
inductive Part where
  | comparator
  | numeral
  | suffix
  deriving DecidableEq, Repr

open Pattern in
/-- A comparison: a word, which `than` may follow, or a sign. `exceed` may have any ending. -/
def comparison : Pattern Part :=
  capture Part.comparator
      (oneOfWords ["greater", "more", "above", "over"] |||
        (word "exceed" ++ many Text.isWordChar) ||| oneOfWords [">", "<"]) ++
    maybe (gap ++ word "than")

/-- Whether a character may stand inside the whole part of a numeral. -/
def isNumeralChar (c : Char) : Bool :=
  Text.isDigit c || c = ','

open Pattern in
/-- A numeral: a digit, digits and commas, and perhaps a point and more digits. -/
def numeral : Pattern Part :=
  capture Part.numeral
    (one Text.isDigit ++ many isNumeralChar ++ maybe (word "." ++ digitRun))

open Pattern in
/-- The currency in front of a numeral. -/
def currency : Pattern Part :=
  maybe (oneOfWords ["₦", "ngn"]) ++ blanks

open Pattern in
/-- The words for magnitudes; the word must end there. -/
def magnitude : Pattern Part :=
  maybe
    (blanks ++ capture Part.suffix
      (oneOfWords ["billion", "bn", "b", "million", "mn", "m", "thousand", "k"]) ++ edge)

open Pattern in
/-- What may stand between a metric and a comparison. -/
def link : Pattern Part :=
  blanks ++ maybe ((word "is" ++ gap) ||| (word "of" ++ gap))

open Pattern in
/-- An amount of money behind a metric. -/
def moneyThreshold : Pattern Part :=
  link ++ comparison ++ blanks ++ currency ++ numeral ++ magnitude

end Threshold

/-! ## Metrics -/

inductive Metric where
  /-- The amount of trades. -/
  | amount
  /-- The exposure to a counterparty. -/
  | exposure
  /-- The used part of a limit, in percent. -/
  | utilization
  deriving DecidableEq, Repr

namespace Metric

/-- The metrics, in the order in which their thresholds are listed. -/
def all : List Metric :=
  [amount, exposure, utilization]

def field : Metric → String
  | amount => "amount_ngn"
  | exposure => "current_exposure"
  | utilization => "utilization_pct"

def isScaled : Metric → Bool
  | amount => true
  | exposure => true
  | utilization => false

open Pattern Threshold in
/-- The words for a metric and the threshold behind them. -/
def pattern : Metric → Pattern Part
  | amount => oneOfWords ["volume", "amount"] ++ maybe (word "s") ++ moneyThreshold
  | exposure => word "exposure" ++ maybe (word "s") ++ moneyThreshold
  | utilization =>
    word "utili" ++ one (fun c => c = 's' || c = 'z') ++ word "ation" ++ link ++ comparison ++
      blanks ++ numeral

end Metric

/-! ## Values -/

namespace Threshold

/-- The factor of a magnitude word; other words, and none, leave a number as it is. -/
def multiplier (suffix : Option String) : Nat :=
  match suffix with
  | some "b" => 1000000000
  | some "bn" => 1000000000
  | some "billion" => 1000000000
  | some "m" => 1000000
  | some "mn" => 1000000
  | some "million" => 1000000
  | some "k" => 1000
  | some "thousand" => 1000
  | _ => 1

/-- The number nearest to what a numeral writes. Commas do not count; digits other than `0` to `9`
make it none. -/
def numeralValue? (numeral : List Char) : Option Binary64 := do
  let text := numeral.filter (· != ',')
  let whole := text.takeWhile (· != '.')
  let places := text.drop (whole.length + 1)
  let n ← readNat (whole ++ places)
  some (Binary64.ofDecimal false n (-(places.length : Int)))

/-- The value of a threshold: the number times its factor, unless that is too large. -/
def value? (metric : Metric) (numeral : List Char) (suffix : Option String) : Option Binary64 := do
  let x ← numeralValue? numeral
  let y := if metric.isScaled then x.mul (Binary64.ofNat false (multiplier suffix)) else x
  if y.isFinite then some y else none

end Threshold

open Threshold in
/-- The filter of the leftmost threshold of a metric in a text. Only `<` compares downwards. -/
def threshold? (text : List Char) (metric : Metric) : Option Filter := do
  let m ← metric.pattern.find? text
  let comparator ← m.get? Part.comparator
  let numeral ← m.get? Part.numeral
  let suffix := (m.get? Part.suffix).map fun c => String.ofList c.text
  let x ← value? metric numeral.text suffix
  some (if comparator.text = ['<'] then .lessThan metric.field x else .greaterThan metric.field x)

/-- The filters of all thresholds in a text, at most one for each metric. -/
def thresholds (text : List Char) : List Filter :=
  Metric.all.filterMap (threshold? text)

theorem field_of_threshold? {text : List Char} {metric : Metric} {f : Filter}
    (h : threshold? text metric = some f) : f.field = metric.field := by
  simp only [threshold?, Option.bind_eq_bind, Option.bind_eq_some_iff, Option.some.injEq] at h
  obtain ⟨m, -, c, -, n, -, x, -, rfl⟩ := h
  split <;> rfl

end ReportPlan
