import ReportPlan.Matching
import ReportPlan.Pattern
import ReportPlan.Report.Basic

/-! # Periods named in queries

The phrases for periods form a ladder: the first rule that yields a window counts. Calendar periods
run from the first second of their first day to the last second of their last day; `last N days`
and the current year end now. A rule whose window would leave the calendar yields none, and the
ladder goes on.

* `PeriodRule`: the rules, with their names and their order.
* `PeriodRule.window?`: the window that a rule yields for a text and an instant.
* `firedRule?`: the first rule with a window.
* `windowIn`: its window; all time if no rule fires.
-/

set_option autoImplicit false

namespace ReportPlan

/-! ## Calendar periods -/

/-- From the first second of a day to the last second of another one. -/
def wholeDays (first last : Date) : Window :=
  .between (.startOf first) (.endOf last)

/-- The months from one month of a year to another. -/
def monthsWindow? (year : Int) (firstMonth lastMonth : Nat) : Option Window := do
  let first ← Date.of? year firstMonth 1
  let last ← lastOfMonth? year lastMonth
  some (wholeDays first last)

def monthWindow? (year : Int) (month : Nat) : Option Window :=
  monthsWindow? year month month

/-- One of the four quarters, which are counted from one. -/
def quarterWindow? (year : Int) (quarter : Nat) : Option Window :=
  if 1 ≤ quarter ∧ quarter ≤ 4 then
    monthsWindow? year (3 * (quarter - 1) + 1) (3 * (quarter - 1) + 3)
  else none

theorem quarterWindow?_eq_some_iff {year : Int} {quarter : Nat} {w : Window} :
    quarterWindow? year quarter = some w ↔ (1 ≤ quarter ∧ quarter ≤ 4) ∧
      monthsWindow? year (3 * (quarter - 1) + 1) (3 * (quarter - 1) + 3) = some w :=
  Option.ite_none_right_eq_some

def yearWindow? (year : Int) : Option Window := do
  let first ← Date.of? year 1 1
  let last ← Date.of? year 12 31
  some (wholeDays first last)

/-! ## Rules -/

/-- The rules, named for their phrases. -/
inductive PeriodRule where
  | today
  | yesterday
  | lastDays
  | thisMonth
  | lastMonth
  | thisQuarter
  | quarterOfYear
  | thisYear
  | calendarYear
  deriving DecidableEq, Repr

/-- The parts of a period that are captured. -/
inductive PeriodPart where
  | days
  | quarter
  | year
  deriving DecidableEq, Repr

namespace PeriodRule

def name : PeriodRule → String
  | today => "today"
  | yesterday => "yesterday"
  | lastDays => "last_n_days"
  | thisMonth => "this_month"
  | lastMonth => "last_month"
  | thisQuarter => "this_quarter"
  | quarterOfYear => "quarter_of_year"
  | thisYear => "this_year"
  | calendarYear => "calendar_year"

def all : List PeriodRule :=
  [today, yesterday, lastDays, thisMonth, lastMonth, thisQuarter, quarterOfYear, thisYear,
    calendarYear]

open Pattern in
/-- `last 30 days`. -/
def lastDaysPattern : Pattern PeriodPart :=
  word "last" ++ gap ++ capture .days digitRun ++ gap ++ word "day"

def isQuarterDigit (c : Char) : Bool :=
  '1' ≤ c && c ≤ '4'

open Pattern in
/-- `q3 2026`, as words of their own. -/
def quarterPattern : Pattern PeriodPart :=
  edge ++ word "q" ++ capture .quarter (one isQuarterDigit) ++ blanks ++
    capture .year
      (one Text.isDigit ++ one Text.isDigit ++ one Text.isDigit ++ one Text.isDigit) ++ edge

open Pattern in
/-- A year of the century from 2000 on, as a word of its own. -/
def yearPattern : Pattern PeriodPart :=
  edge ++ capture .year (word "20" ++ one Text.isDigit ++ one Text.isDigit) ++ edge

def number? (m : Pattern.Match PeriodPart) (part : PeriodPart) : Option Nat :=
  (m.get? part).bind fun c => readNat c.text

/-- The greatest number that is counted. It takes 64 bits, one of them for the sign. -/
def greatestCount : Nat :=
  9223372036854775807

/-- The milliseconds of a day. -/
def dayMillis : Nat :=
  1000 * daySeconds

/-- The number of days of a match, if the days can be counted, and so can their milliseconds. -/
def dayCount? (m : Pattern.Match PeriodPart) : Option Nat :=
  (number? m .days).filter fun n => n ≤ greatestCount && n * dayMillis ≤ greatestCount

/-- The window of a rule that applies if a text has a phrase. -/
def given (applies : Bool) (window : Option Window) : Option Window :=
  if applies then window else none

/-- The month before the month of a date. -/
def monthBefore (date : Date) : Int × Nat :=
  if date.month = 1 then (date.year - 1, 12) else (date.year, date.month - 1)

/-- The window that a rule yields for a text at an instant. -/
def window? (mode : MatchMode) (text : List Char) (now : Instant) : PeriodRule → Option Window
  | today => given (mode.has text "today") (some (.between now now))
  | yesterday => given (mode.has text "yesterday") (now.date.pred?.map fun day => wholeDays day day)
  | lastDays => do
    let m ← lastDaysPattern.find? text
    let days ← dayCount? m
    let start ← now.minusDays? days
    some (.between start now)
  | thisMonth => given (mode.has text "this month") (monthWindow? now.date.year now.date.month)
  | lastMonth =>
    given (mode.has text "last month")
      (monthWindow? (monthBefore now.date).1 (monthBefore now.date).2)
  | thisQuarter =>
    given (mode.has text "this quarter")
      (quarterWindow? now.date.year ((now.date.month - 1) / 3 + 1))
  | quarterOfYear => do
    let m ← quarterPattern.find? text
    let quarter ← number? m .quarter
    let year ← number? m .year
    quarterWindow? year quarter
  | thisYear =>
    given (mode.hasAny text ["this year", "ytd"])
      ((Date.of? now.date.year 1 1).map fun first => .between (.startOf first) now)
  | calendarYear => do
    let m ← yearPattern.find? text
    let year ← number? m .year
    yearWindow? year

end PeriodRule

/-! ## The ladder -/

/-- The first rule with a window, and the window. -/
def firedRule? (mode : MatchMode) (text : List Char) (now : Instant) :
    Option (PeriodRule × Window) :=
  PeriodRule.all.findSome? fun rule => (rule.window? mode text now).map fun w => (rule, w)

def windowIn (mode : MatchMode) (text : List Char) (now : Instant) : Window :=
  match firedRule? mode text now with
  | some (_, w) => w
  | none => .allTime

theorem window?_of_firedRule? {mode : MatchMode} {text : List Char} {now : Instant}
    {rule : PeriodRule} {w : Window} (h : firedRule? mode text now = some (rule, w)) :
    rule.window? mode text now = some w := by
  obtain ⟨r, -, hr⟩ := List.exists_of_findSome?_eq_some h
  obtain ⟨w', hw', heq⟩ := Option.map_eq_some_iff.1 hr
  cases heq
  exact hw'

end ReportPlan
