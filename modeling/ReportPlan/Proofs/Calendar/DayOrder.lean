import ReportPlan.Proofs.Calendar.DayNumber

/-! # The order of days

Days are numbered without gaps, and the calendar counts them one after the other: the day before a
date, the last day of a month and the instant some days ago are what the calendar says they are.

* `Date.ofNumber?_eq_some_iff`: the date with a number.
* `Date.Precedes`: one date is the day before another one; its number is then one less.
* `Date.Opens`, `Date.Closes`: the first and the last day of a month.
* `lastOfMonth?_eq_some_iff`: the last day of a month is the day before the first of the next.
* `Instant.ofUnix?_eq_some_iff`: the instant with given seconds since 1970.
* `Instant.minusDays?_le`: an instant some days ago is not later.
-/

set_option autoImplicit false

namespace ReportPlan

/-! ## Years and months on the line of days -/

theorem daysBeforeYear_succ (year : Int) :
    daysBeforeYear (year + 1) = daysBeforeYear year + daysInYear year := by
  have hleap : isLeapYear year = true ↔ year % 4 = 0 ∧ (year % 100 ≠ 0 ∨ year % 400 = 0) := by
    simp only [isLeapYear, Bool.and_eq_true, Bool.or_eq_true, beq_iff_eq, bne_iff_ne]
  simp only [daysBeforeYear, daysInYear, hleap]
  split <;> omega

theorem daysBeforeYear_mono {a b : Int} (h : a ≤ b) : daysBeforeYear a ≤ daysBeforeYear b := by
  unfold daysBeforeYear
  omega

theorem exists_year_of_day (n : Int) :
    ∃ (year : Int) (k : Nat), k < daysInYear year ∧ n = daysBeforeYear year + k := by
  obtain ⟨inCycle, hlt, hn⟩ : ∃ inCycle : Nat, inCycle < 146097 ∧
      n = 146097 * (n / 146097) + inCycle :=
    ⟨(n % 146097).toNat, by omega, by omega⟩
  -- the last century of a cycle and the last year of four are a day longer than the others, so
  -- that the quotients are cut off there
  obtain ⟨century, inCentury, hcentury, hcase, hcycle⟩ : ∃ century inCentury : Nat, century ≤ 3 ∧
      (inCentury < 36524 ∨ (century = 3 ∧ inCentury < 36525)) ∧
      inCycle = 36524 * century + inCentury :=
    ⟨min (inCycle / 36524) 3, inCycle - 36524 * min (inCycle / 36524) 3, by omega, by omega,
      by omega⟩
  obtain ⟨fourth, inFourth, hfourth, hinFourth, hcen⟩ : ∃ fourth inFourth : Nat, fourth ≤ 24 ∧
      inFourth < 1461 ∧ inCentury = 1461 * fourth + inFourth :=
    ⟨inCentury / 1461, inCentury % 1461, by omega, by omega, by omega⟩
  obtain ⟨single, k, hsingle, hk, hfour⟩ : ∃ single k : Nat, single ≤ 3 ∧
      (k < 365 ∨ (single = 3 ∧ k < 366)) ∧ inFourth = 365 * single + k :=
    ⟨min (inFourth / 365) 3, inFourth - 365 * min (inFourth / 365) 3, by omega, by omega, by omega⟩
  refine ⟨400 * (n / 146097) + (100 * century + 4 * fourth + single + 1 : Nat), k, ?_, ?_⟩
  · rw [daysInYear_cycles hcentury hfourth hsingle]
    split <;> omega
  · rw [daysBeforeYear_cycles hcentury hfourth hsingle]
    omega

theorem exists_month_of_day {year : Int} {m k : Nat} (h : k < daysBeforeMonth year (m + 1)) :
    ∃ month day, (1 ≤ month ∧ month ≤ m) ∧ (1 ≤ day ∧ day ≤ daysInMonth year month) ∧
      k = daysBeforeMonth year month + (day - 1) := by
  induction m with
  | zero => cases h
  | succ m ih =>
    -- a day that is not before the last of the months lies in it
    by_cases hlt : k < daysBeforeMonth year (m + 1)
    · obtain ⟨month, day, hmonth, hday, hk⟩ := ih hlt
      exact ⟨month, day, ⟨hmonth.1, by omega⟩, hday, hk⟩
    · have hnext : daysBeforeMonth year (m + 1 + 1) =
          daysBeforeMonth year (m + 1) + daysInMonth year (m + 1) := rfl
      exact ⟨m + 1, k - daysBeforeMonth year (m + 1) + 1, by omega, by omega, by omega⟩

/-! ## Dates by number -/

/-- Every number belongs to a day of the calendar without bounds, and to a date if the year of that
day is in bounds. -/
theorem Date.exists_parts (n : Int) :
    ∃ (year : Int) (month day : Nat), (1 ≤ month ∧ month ≤ 12) ∧
      (1 ≤ day ∧ day ≤ daysInMonth year month) ∧
      n + epoch = daysBeforeYear year + (daysBeforeMonth year month + (day - 1) : Nat) ∧
      ofNumber? n = of? year month day := by
  obtain ⟨year, k, hk, hn⟩ := exists_year_of_day (n + epoch)
  rw [← daysBeforeMonth_thirteen] at hk
  obtain ⟨month, day, hmonth, hday, rfl⟩ := exists_month_of_day hk
  rw [daysBeforeMonth_thirteen] at hk
  refine ⟨year, month, day, hmonth, hday, hn, ?_⟩
  simp only [ofNumber?, hn, yearOfDay_daysBeforeYear hk, monthOfDay_daysBeforeMonth hmonth hday]

theorem Date.ofNumber?_eq_some_iff {n : Int} {d : Date} : ofNumber? n = some d ↔ d.number = n := by
  constructor
  · intro h
    obtain ⟨year, month, day, -, -, hn, hof⟩ := exists_parts n
    rw [hof, of?_eq_some_iff] at h
    obtain ⟨rfl, rfl, rfl⟩ := h
    rw [number]
    omega
  · rintro rfl
    exact d.ofNumber?_number

theorem Date.number_injective {d e : Date} (h : d.number = e.number) : d = e := by
  have hd := ofNumber?_eq_some_iff.2 h
  rw [ofNumber?_number] at hd
  exact (Option.some.inj hd).symm

theorem Date.number_bounds (d : Date) :
    daysBeforeYear d.year ≤ d.number + epoch ∧ d.number + epoch < daysBeforeYear (d.year + 1) := by
  have hlt := d.dayOfYear_lt
  have hnext := daysBeforeYear_succ d.year
  rw [number]
  omega

/-! ## The day before -/

theorem daysInMonth_pos {year : Int} {month : Nat} (h : 1 ≤ month ∧ month ≤ 12) :
    1 ≤ daysInMonth year month := by
  unfold daysInMonth
  split <;> grind

/-- One date is the day before another one: in the same month, or the last of a month before the
first of the next. -/
inductive Date.Precedes (d e : Date) : Prop
  | sameMonth (hyear : e.year = d.year) (hmonth : e.month = d.month) (hday : e.day = d.day + 1)
  | nextMonth (hlast : d.day = daysInMonth d.year d.month) (hyear : e.year = d.year)
      (hmonth : e.month = d.month + 1) (hday : e.day = 1)
  | nextYear (hmonth : d.month = 12) (hlast : d.day = 31) (hyear : e.year = d.year + 1)
      (hfirst : e.month = 1) (hday : e.day = 1)

theorem Date.Precedes.number_succ {d e : Date} (h : d.Precedes e) : d.number + 1 = e.number := by
  have hpos := d.day_mem.1
  cases h with
  | sameMonth hyear hmonth hday =>
    rw [number, number, hyear, hmonth, hday]
    omega
  | nextMonth hlast hyear hmonth hday =>
    have hnext : daysBeforeMonth d.year (d.month + 1) =
        daysBeforeMonth d.year d.month + daysInMonth d.year d.month := rfl
    rw [number, number, hyear, hmonth, hday, hnext]
    omega
  | nextYear hmonth hlast hyear hfirst hday =>
    have hyears := daysBeforeYear_succ d.year
    have hmonths : daysBeforeMonth d.year 12 + 31 = daysInYear d.year :=
      daysBeforeMonth_thirteen d.year
    have hzero : daysBeforeMonth (d.year + 1) 1 = 0 := rfl
    rw [number, number, hyear, hfirst, hday, hmonth, hlast, hyears, hzero]
    omega

theorem Date.exists_next {d : Date} (h : ¬(d.year = lastYear ∧ d.month = 12 ∧ d.day = 31)) :
    ∃ e, d.Precedes e := by
  by_cases hday : d.day < daysInMonth d.year d.month
  · exact ⟨⟨d.year, d.month, d.day + 1, d.year_mem, d.month_mem, by omega, by omega⟩,
      .sameMonth rfl rfl rfl⟩
  · have hlast : d.day = daysInMonth d.year d.month := by
      have hle := d.day_mem.2
      omega
    by_cases hmonth : d.month = 12
    · have hday31 : d.day = 31 := by rw [hlast, hmonth, daysInMonth]
      have hyear := d.year_mem
      have hfirst : firstYear ≤ d.year + 1 ∧ d.year + 1 ≤ lastYear := by omega
      exact ⟨⟨d.year + 1, 1, 1, hfirst, by decide, by decide, daysInMonth_pos (by decide)⟩,
        .nextYear hmonth hday31 rfl rfl rfl⟩
    · have hle := d.month_mem
      have hnext : 1 ≤ d.month + 1 ∧ d.month + 1 ≤ 12 := by omega
      exact ⟨⟨d.year, d.month + 1, 1, d.year_mem, hnext, Nat.le_refl 1, daysInMonth_pos hnext⟩,
        .nextMonth hlast rfl rfl rfl⟩

theorem Date.number_le_of_last {d e : Date} (h : d.year = lastYear ∧ d.month = 12 ∧ d.day = 31) :
    e.number ≤ d.number := by
  obtain ⟨hyear, hmonth, hday⟩ := h
  have hyears := daysBeforeYear_succ lastYear
  have hmonths : daysBeforeMonth lastYear 12 + 31 = daysInYear lastYear :=
    daysBeforeMonth_thirteen lastYear
  have hd : d.number + epoch + 1 = daysBeforeYear (lastYear + 1) := by
    rw [number, hyear, hmonth, hday]
    omega
  have he := e.number_bounds.2
  have hle : daysBeforeYear (e.year + 1) ≤ daysBeforeYear (lastYear + 1) :=
    daysBeforeYear_mono (by have := e.year_mem.2; omega)
  omega

theorem Date.precedes_iff {d e : Date} : d.Precedes e ↔ d.number + 1 = e.number := by
  constructor
  · exact Precedes.number_succ
  · intro h
    have hlast : ¬(d.year = lastYear ∧ d.month = 12 ∧ d.day = 31) := fun hlast => by
      have hle := number_le_of_last (e := e) hlast
      omega
    obtain ⟨e', he'⟩ := exists_next hlast
    rwa [← number_injective (he'.number_succ.symm.trans h)]

theorem Date.pred?_eq_some_iff {d e : Date} : e.pred? = some d ↔ d.Precedes e := by
  rw [pred?, ofNumber?_eq_some_iff, precedes_iff]
  omega

theorem Date.exists_previous {e : Date} (h : ¬(e.year = firstYear ∧ e.month = 1 ∧ e.day = 1)) :
    ∃ d : Date, d.Precedes e := by
  have hyear := e.year_mem
  have hmonth := e.month_mem
  have hday := e.day_mem
  by_cases hday1 : e.day = 1
  · by_cases hmonth1 : e.month = 1
    · have hbefore : firstYear ≤ e.year - 1 ∧ e.year - 1 ≤ lastYear := by omega
      exact ⟨⟨e.year - 1, 12, 31, hbefore, by decide, Nat.le_of_ble_eq_true rfl, Nat.le_refl 31⟩,
        .nextYear rfl rfl (Int.sub_add_cancel _ _).symm hmonth1 hday1⟩
    · have hbefore : 1 ≤ e.month - 1 ∧ e.month - 1 ≤ 12 := by omega
      exact ⟨⟨e.year, e.month - 1, daysInMonth e.year (e.month - 1), hyear, hbefore,
        daysInMonth_pos hbefore, Nat.le_refl _⟩,
        .nextMonth rfl rfl (Nat.sub_add_cancel hmonth.1).symm hday1⟩
  · exact ⟨⟨e.year, e.month, e.day - 1, hyear, hmonth, by omega, by omega⟩,
      .sameMonth rfl rfl (Nat.sub_add_cancel hday.1).symm⟩

/-- Only the first day of the calendar has no day before it. -/
theorem Date.pred?_eq_none_iff {e : Date} :
    e.pred? = none ↔ e.year = firstYear ∧ e.month = 1 ∧ e.day = 1 := by
  rw [Option.eq_none_iff_forall_ne_some]
  simp only [ne_eq, pred?_eq_some_iff]
  constructor
  · intro hnone
    refine Decidable.byContradiction fun hfirst => ?_
    obtain ⟨d, hd⟩ := exists_previous hfirst
    exact hnone d hd
  · rintro ⟨hfirst, hmonth1, hday1⟩ d h
    have hday := d.day_mem
    have hmonth := d.month_mem
    have hyear := d.year_mem
    cases h <;> omega

/-! ## Months -/

/-- The month after a month of a year. -/
def monthAfter (year : Int) (month : Nat) : Int × Nat :=
  if month = 12 then (year + 1, 1) else (year, month + 1)

/-- A date is the first day of a month. -/
def Date.Opens (d : Date) (month : Int × Nat) : Prop :=
  d.year = month.1 ∧ d.month = month.2 ∧ d.day = 1

/-- A date is the last day of a month. -/
def Date.Closes (d : Date) (month : Int × Nat) : Prop :=
  d.year = month.1 ∧ d.month = month.2 ∧ d.day = daysInMonth month.1 month.2

theorem Date.exists_opens {year : Int} {month : Nat} (hyear : firstYear ≤ year ∧ year ≤ lastYear)
    (hmonth : 1 ≤ month ∧ month ≤ 12) : ∃ d : Date, d.Opens (year, month) :=
  ⟨⟨year, month, 1, hyear, hmonth, Nat.le_refl 1, daysInMonth_pos hmonth⟩, rfl, rfl, rfl⟩

theorem lastOfMonth?_eq_some_iff {year : Int} {month : Nat} {last : Date} :
    lastOfMonth? year month = some last ↔
      ∃ next : Date, next.Opens (monthAfter year month) ∧ last.Precedes next := by
  have hnext : (if month == 12 then Date.of? (year + 1) 1 1 else Date.of? year (month + 1) 1) =
      Date.of? (monthAfter year month).1 (monthAfter year month).2 1 := by
    unfold monthAfter
    by_cases h : month = 12 <;> simp [h]
  simp only [lastOfMonth?, hnext, Option.bind_eq_some_iff, Date.of?_eq_some_iff,
    Date.pred?_eq_some_iff, Date.Opens]

/-- The day before the first of the next month closes the month. -/
theorem Date.Precedes.closes {year : Int} {month : Nat} {last next : Date}
    (h : last.Precedes next) (hnext : next.Opens (monthAfter year month)) (hmonth : 1 ≤ month) :
    last.Closes (year, month) := by
  have hlast := last.day_mem.1
  have hlastMonth := last.month_mem.1
  unfold Opens monthAfter at hnext
  unfold Closes
  by_cases h12 : month = 12
  · simp only [h12, if_true] at hnext
    cases h with
    | sameMonth hyear hsame hday => omega
    | nextMonth hclose hyear hsame hday => omega
    | nextYear hdecember hday hyear hfirst hnew =>
      refine ⟨by show last.year = year; omega, hdecember.trans h12.symm, ?_⟩
      rw [h12, hday, daysInMonth]
  · simp only [h12, if_false] at hnext
    cases h with
    | sameMonth hyear hsame hday => omega
    | nextMonth hclose hyear hsame hday =>
      have hy : last.year = year := hyear.symm.trans hnext.1
      have hm : last.month = month := by omega
      refine ⟨hy, hm, ?_⟩
      rw [hclose, hy, hm]
    | nextYear hdecember hday hyear hfirst hnew => omega

/-- The first of the next month is in the calendar, unless the month is its last. -/
theorem exists_opens_monthAfter {year : Int} {month : Nat}
    (hyear : firstYear ≤ year ∧ year ≤ lastYear) (hmonth : 1 ≤ month ∧ month ≤ 12) :
    (∃ next : Date, next.Opens (monthAfter year month)) ↔ ¬(year = lastYear ∧ month = 12) := by
  unfold monthAfter
  split
  · rename_i h12
    constructor
    · rintro ⟨next, hopens, -⟩ ⟨rfl, -⟩
      have hle := next.year_mem.2
      rw [hopens] at hle
      exact absurd hle (by decide)
    · intro hedge
      exact Date.exists_opens (by omega) (by decide)
  · rename_i h12
    constructor
    · exact fun _ hedge => h12 hedge.2
    · intro _
      exact Date.exists_opens hyear (by omega)

/-! ## Instants -/

namespace Instant

theorem of?_eq_some_iff {date : Date} {second nano : Nat} {i : Instant} :
    of? date second nano = some i ↔ i.date = date ∧ i.second = second ∧ i.nano = nano := by
  constructor
  · intro h
    rw [of?] at h
    split at h
    · cases h; simp
    · cases h
  · rintro ⟨rfl, rfl, rfl⟩
    rw [of?, dif_pos ⟨i.second_lt, i.nano_lt, i.leap_mem⟩]

@[simp] theorem unixSeconds_startOf (d : Date) : (startOf d).unixSeconds = d.number * 86400 := by
  simp [unixSeconds, startOf, daySeconds]

@[simp] theorem unixSeconds_endOf (d : Date) : (endOf d).unixSeconds = d.number * 86400 + 86399 :=
  rfl

theorem startOf_le_endOf_of_le {d e : Date} (h : d.number ≤ e.number) : startOf d ≤ endOf e := by
  rw [le_iff, unixSeconds_startOf, unixSeconds_endOf]
  omega

/-- An instant is not before the start of a day that is not after its own. -/
theorem startOf_le_of_le {d : Date} {i : Instant} (h : d.number ≤ i.date.number) :
    startOf d ≤ i := by
  have hseconds : i.unixSeconds = i.date.number * 86400 + i.second := rfl
  have hnano : (startOf d).nano = 0 := rfl
  rw [le_iff, unixSeconds_startOf, hseconds, hnano]
  omega

/-- The instant with given seconds since 1970, and a given part of a second. -/
theorem ofUnix?_eq_some_iff {seconds : Int} {nano : Nat} {i : Instant} :
    ofUnix? seconds nano = some i ↔ i.unixSeconds = seconds ∧ i.nano = nano := by
  constructor
  · intro h
    obtain ⟨date, hdate, hi⟩ := Option.bind_eq_some_iff.1 h
    rw [Date.ofNumber?_eq_some_iff] at hdate
    obtain ⟨rfl, hsecond, hnano⟩ := of?_eq_some_iff.1 hi
    refine ⟨?_, hnano⟩
    rw [unixSeconds, hdate, hsecond, daySeconds]
    omega
  · rintro ⟨rfl, rfl⟩
    have hlt : i.second < 86400 := i.second_lt
    have hday : i.unixSeconds / daySeconds = i.date.number := by
      rw [unixSeconds, daySeconds]
      omega
    have hsecond : (i.unixSeconds % daySeconds).toNat = i.second := by
      rw [unixSeconds, daySeconds]
      omega
    rw [ofUnix?, hday, Date.ofNumber?_number, Option.bind_some, hsecond]
    exact of?_eq_some_iff.2 ⟨rfl, rfl, rfl⟩

/-- The seconds of the instant some days earlier. From a leap second the clock first moves on to the
next whole second. -/
theorem unixSeconds_of_minusDays? {i j : Instant} {n : Nat} (hn : n ≠ 0)
    (h : i.minusDays? n = some j) :
    j.unixSeconds = i.unixSeconds + (if i.isLeap then 1 else 0) - n * 86400 := by
  rw [minusDays?, if_neg hn] at h
  split at h
  · rename_i hleap
    rw [if_pos hleap]
    exact (ofUnix?_eq_some_iff.1 h).1
  · rename_i hleap
    obtain ⟨date, hdate, hj⟩ := Option.bind_eq_some_iff.1 h
    rw [Date.ofNumber?_eq_some_iff] at hdate
    obtain ⟨rfl, hsecond, -⟩ := of?_eq_some_iff.1 hj
    rw [if_neg hleap, unixSeconds, unixSeconds, hdate, hsecond, daySeconds]
    omega

theorem minusDays?_le {i j : Instant} {n : Nat} (h : i.minusDays? n = some j) : j ≤ i := by
  by_cases hn : n = 0
  · rw [hn, minusDays?_zero, Option.some.injEq] at h
    rw [← h]
    exact le_refl i
  · have hj := unixSeconds_of_minusDays? hn h
    rw [le_iff]
    left
    split at hj <;> omega

end Instant
end ReportPlan
