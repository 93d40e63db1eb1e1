import ReportPlan.Calendar.Instant

/-! # Days by number

The number of a day determines it: `Date.ofNumber?` finds every date of the calendar again.

* `daysInYear`: 365 or 366.
* `yearOfDay_daysBeforeYear`: the year of a day, by cycles of 400, 100, 4 and 1 years.
* `monthOfDay_daysBeforeMonth`: the month of a day of a year.
* `Date.ofNumber?_number`: both together.
-/

set_option autoImplicit false

namespace ReportPlan

/-! ## Years -/

/-- The days of a year. -/
def daysInYear (year : Int) : Nat :=
  if isLeapYear year then 366 else 365

/-- Every year has a place in its cycle of 400 years, its century and its group of four. -/
theorem exists_cycles (year : Int) :
    ∃ (cycle : Int) (century fourth single : Nat), century ≤ 3 ∧ fourth ≤ 24 ∧ single ≤ 3 ∧
      year = 400 * cycle + (100 * century + 4 * fourth + single + 1 : Nat) := by
  refine ⟨(year - 1) / 400, ((year - 1) % 400 / 100).toNat, ((year - 1) % 100 / 4).toNat,
    ((year - 1) % 4).toNat, ?_, ?_, ?_, ?_⟩ <;> omega

section Cycles

variable {cycle : Int} {century fourth single : Nat}

theorem daysBeforeYear_cycles (hcentury : century ≤ 3) (hfourth : fourth ≤ 24)
    (hsingle : single ≤ 3) :
    daysBeforeYear (400 * cycle + (100 * century + 4 * fourth + single + 1 : Nat)) =
      146097 * cycle + (36524 * century + 1461 * fourth + 365 * single : Nat) := by
  unfold daysBeforeYear
  omega

/-- The last year of four is longer, but the last one of a century only at the end of a cycle. -/
theorem daysInYear_cycles (hcentury : century ≤ 3) (hfourth : fourth ≤ 24)
    (hsingle : single ≤ 3) :
    daysInYear (400 * cycle + (100 * century + 4 * fourth + single + 1 : Nat)) =
      if single = 3 ∧ (fourth ≠ 24 ∨ century = 3) then 366 else 365 := by
  have hleap : isLeapYear (400 * cycle + (100 * century + 4 * fourth + single + 1 : Nat)) = true ↔
      single = 3 ∧ (fourth ≠ 24 ∨ century = 3) := by
    simp only [isLeapYear, Bool.and_eq_true, Bool.or_eq_true, beq_iff_eq, bne_iff_ne]
    omega
  simp only [daysInYear, hleap]

end Cycles

/-- A day of a year is found in that year again, with the days of the year before it. -/
theorem yearOfDay_daysBeforeYear {year : Int} {n : Nat} (h : n < daysInYear year) :
    Date.yearOfDay (daysBeforeYear year + n) = (year, n) := by
  obtain ⟨cycle, century, fourth, single, hcentury, hfourth, hsingle, rfl⟩ := exists_cycles year
  rw [daysInYear_cycles hcentury hfourth hsingle] at h
  rw [daysBeforeYear_cycles hcentury hfourth hsingle]
  -- the day's place in its cycle, and what is left of it after centuries and groups of four
  have hinCycle : 36524 * century + 1461 * fourth + 365 * single + n < 146097 := by
    split at h <;> omega
  have hcycle : (146097 * cycle + (36524 * century + 1461 * fourth + 365 * single : Nat) + (n : Int)) /
      146097 = cycle := by omega
  have hrest : ((146097 * cycle + (36524 * century + 1461 * fourth + 365 * single : Nat) +
      (n : Int)) % 146097).toNat = 36524 * century + 1461 * fourth + 365 * single + n := by omega
  have hcenturyOf : min ((36524 * century + 1461 * fourth + 365 * single + n) / 36524) 3 =
      century := by
    split at h <;> omega
  have hinCentury : 36524 * century + 1461 * fourth + 365 * single + n - 36524 * century =
      1461 * fourth + (365 * single + n) := by omega
  have hfourthOf : (1461 * fourth + (365 * single + n)) / 1461 = fourth := by
    split at h <;> omega
  have hinFourth : (1461 * fourth + (365 * single + n)) % 1461 = 365 * single + n := by
    split at h <;> omega
  have hsingleOf : min ((365 * single + n) / 365) 3 = single := by
    split at h <;> omega
  simp only [Date.yearOfDay, hcycle, hrest, hcenturyOf, hinCentury, hfourthOf, hinFourth,
    hsingleOf]
  rw [Nat.add_sub_cancel_left]

/-! ## Months -/

theorem daysInMonth_le (year : Int) (month : Nat) : daysInMonth year month ≤ 31 := by
  unfold daysInMonth
  split <;> first | decide | (split <;> decide)

theorem daysBeforeMonth_le {year : Int} {m n : Nat} (h : m ≤ n) :
    daysBeforeMonth year m ≤ daysBeforeMonth year n := by
  induction h with
  | refl => exact Nat.le_refl _
  | step _ ih =>
    rw [daysBeforeMonth]
    omega

theorem daysBeforeMonth_thirteen (year : Int) : daysBeforeMonth year 13 = daysInYear year := by
  simp only [daysBeforeMonth, daysInMonth, daysInYear]
  split <;> rfl

/-- A day of a month is found in that month again. -/
theorem monthOfDay_daysBeforeMonth {year : Int} {month day : Nat}
    (hmonth : 1 ≤ month ∧ month ≤ 12) (hday : 1 ≤ day ∧ day ≤ daysInMonth year month) :
    Date.monthOfDay year (daysBeforeMonth year month + (day - 1)) = (month, day) := by
  obtain ⟨m, rfl⟩ : ∃ m, month = m + 1 := ⟨month - 1, by omega⟩
  have hnext : daysBeforeMonth year (m + 2) =
      daysBeforeMonth year (m + 1) + daysInMonth year (m + 1) := rfl
  have hfind : ((List.range 12).find? fun i =>
      daysBeforeMonth year (m + 1) + (day - 1) < daysBeforeMonth year (i + 2)) = some m := by
    rw [List.find?_range_eq_some]
    refine ⟨decide_eq_true (by omega), List.mem_range.2 (by omega), fun i hi => ?_⟩
    have hle : daysBeforeMonth year (i + 2) ≤ daysBeforeMonth year (m + 1) :=
      daysBeforeMonth_le (by omega)
    simp only [Bool.not_eq_true', decide_eq_false_iff_not]
    omega
  simp only [Date.monthOfDay, hfind, Option.getD_some, Prod.mk.injEq, true_and]
  omega

/-! ## Dates -/

theorem Date.dayOfYear_lt (d : Date) :
    daysBeforeMonth d.year d.month + (d.day - 1) < daysInYear d.year := by
  have hnext : daysBeforeMonth d.year (d.month + 1) =
      daysBeforeMonth d.year d.month + daysInMonth d.year d.month := rfl
  have hle : daysBeforeMonth d.year (d.month + 1) ≤ daysBeforeMonth d.year 13 :=
    daysBeforeMonth_le (Nat.succ_le_succ d.month_mem.2)
  rw [daysBeforeMonth_thirteen] at hle
  have hday := d.day_mem
  omega

/-- Every date is the date of its number. -/
theorem Date.ofNumber?_number (d : Date) : ofNumber? d.number = some d := by
  have hsum : d.number + epoch =
      daysBeforeYear d.year + (daysBeforeMonth d.year d.month + (d.day - 1) : Nat) := by
    rw [number]
    omega
  simp only [ofNumber?, hsum, yearOfDay_daysBeforeYear d.dayOfYear_lt,
    monthOfDay_daysBeforeMonth d.month_mem d.day_mem]
  exact of?_eq_some_iff.2 ⟨rfl, rfl, rfl⟩

end ReportPlan
