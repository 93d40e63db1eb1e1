/-! # Calendar dates

Dates of the Gregorian calendar, extended to all years and bounded to the years -262143 to 262142.

* `Date`: a year, month and day that the calendar has.
* `Date.of?`: the date with given parts, if there is one.
* `Date.number`: the days since 1 January 1970; `Date.ofNumber?` goes back.
* `Date.pred?`: the day before.
* `lastOfMonth?`: the last day of a month, found as the day before the first of the next.
-/

set_option autoImplicit false

namespace ReportPlan

/-! ## Years and months -/

def firstYear : Int :=
  -262143

def lastYear : Int :=
  262142

def isLeapYear (year : Int) : Bool :=
  year % 4 == 0 && (year % 100 != 0 || year % 400 == 0)

/-- The days of a month; none if the year has no such month. -/
def daysInMonth (year : Int) : Nat → Nat
  | 1 => 31
  | 2 => if isLeapYear year then 29 else 28
  | 3 => 31
  | 4 => 30
  | 5 => 31
  | 6 => 30
  | 7 => 31
  | 8 => 31
  | 9 => 30
  | 10 => 31
  | 11 => 30
  | 12 => 31
  | _ => 0

/-- The days of a year before a month. -/
def daysBeforeMonth (year : Int) : Nat → Nat
  | 0 => 0
  | month + 1 => daysBeforeMonth year month + daysInMonth year month

/-- The days from 1 January of the year 1 to 1 January of a year. -/
def daysBeforeYear (year : Int) : Int :=
  365 * (year - 1) + (year - 1) / 4 - (year - 1) / 100 + (year - 1) / 400

/-! ## Dates -/

structure Date where
  year : Int
  month : Nat
  day : Nat
  year_mem : firstYear ≤ year ∧ year ≤ lastYear
  month_mem : 1 ≤ month ∧ month ≤ 12
  day_mem : 1 ≤ day ∧ day ≤ daysInMonth year month
  deriving DecidableEq, Repr

namespace Date

/-- The date with a year, month and day, if the calendar has it. -/
def of? (year : Int) (month day : Nat) : Option Date :=
  if h : (firstYear ≤ year ∧ year ≤ lastYear) ∧ (1 ≤ month ∧ month ≤ 12) ∧
      (1 ≤ day ∧ day ≤ daysInMonth year month) then
    some ⟨year, month, day, h.1, h.2.1, h.2.2⟩
  else none

theorem of?_eq_some_iff {year : Int} {month day : Nat} {d : Date} :
    of? year month day = some d ↔ d.year = year ∧ d.month = month ∧ d.day = day := by
  constructor
  · intro h
    rw [of?] at h
    split at h
    · cases h; simp
    · cases h
  · rintro ⟨rfl, rfl, rfl⟩
    rw [of?, dif_pos ⟨d.year_mem, d.month_mem, d.day_mem⟩]

/-- The days from 1 January of the year 1 to 1 January 1970. -/
def epoch : Int :=
  719162

def number (d : Date) : Int :=
  daysBeforeYear d.year + daysBeforeMonth d.year d.month + (d.day - 1 : Nat) - epoch

/-- The year of a day, and the days of that year before it. The day is counted from 1 January of
the year 1. Cycles of 400, 100, 4 and 1 years are taken off in turn; the last century of a cycle
and the last year of four have one day more. -/
def yearOfDay (n : Int) : Int × Nat :=
  let inCycle := (n % 146097).toNat
  let century := min (inCycle / 36524) 3
  let inCentury := inCycle - 36524 * century
  let fourth := inCentury / 1461
  let inFourth := inCentury % 1461
  let single := min (inFourth / 365) 3
  (400 * (n / 146097) + (100 * century + 4 * fourth + single + 1 : Nat), inFourth - 365 * single)

/-- The month of a day of a year, and the day of that month; days of the year are counted from
zero. -/
def monthOfDay (year : Int) (n : Nat) : Nat × Nat :=
  let month := ((List.range 12).find? fun m => n < daysBeforeMonth year (m + 2)).getD 11 + 1
  (month, n - daysBeforeMonth year month + 1)

/-- The day with a number of days since 1 January 1970, if the calendar reaches it. -/
def ofNumber? (n : Int) : Option Date :=
  let (year, inYear) := yearOfDay (n + epoch)
  let (month, day) := monthOfDay year inYear
  of? year month day

def pred? (d : Date) : Option Date :=
  ofNumber? (d.number - 1)

end Date

/-- The last day of a month: the day before the first of the next month. -/
def lastOfMonth? (year : Int) (month : Nat) : Option Date :=
  let next := if month == 12 then Date.of? (year + 1) 1 1 else Date.of? year (month + 1) 1
  next.bind Date.pred?

end ReportPlan
