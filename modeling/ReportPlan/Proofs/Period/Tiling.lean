import Mathlib.Tactic.Choose
import ReportPlan.Proofs.Period.Ordered
import ReportPlan.Proofs.Period.Phrases

/-! # Calendar periods tile time

Days, months, quarters and years are computed in different ways, but their boundaries agree to the
second: a period ends one second before the next one of its kind begins, and the longer ones are put
together from the shorter ones.

* `Instant.SecondBefore`, `Window.Abuts`: no second lies between two windows, and none in both.
* `Window.CoversMonths`: the window of some months of a year.
* `coversMonths_iff`: that is what the windows of months are, so there is only one for given months.
* `Window.CoversMonths.exists_within`: a part of the months has a window too.
* `Window.TilesMonths`: a quarter and its months.
* `QuartersTile`, `exists_quartersTile`: the quarters of a year, and the year.
* `PeriodsTile`, `periodsTile`: the periods around an instant as well.
-/

set_option autoImplicit false

namespace ReportPlan

/-! ## Neighbours -/

/-- One whole second comes directly before another one. -/
def Instant.SecondBefore (i j : Instant) : Prop :=
  i.unixSeconds + 1 = j.unixSeconds ∧ i.nano = 0 ∧ j.nano = 0

/-- One window ends one second before another one begins. -/
def Window.Abuts (w v : Window) : Prop :=
  ∃ stop start, w.stop = some stop ∧ v.start = some start ∧ stop.SecondBefore start

/-- A window begins where a first one does and ends where a last one does. -/
def Window.Spans (w first last : Window) : Prop :=
  w.start = first.start ∧ w.stop = last.stop

theorem Date.precedes_iff_secondBefore {d e : Date} :
    d.Precedes e ↔ (Instant.endOf d).SecondBefore (.startOf e) := by
  have hzero : (Instant.endOf d).nano = 0 ∧ (Instant.startOf e).nano = 0 := ⟨rfl, rfl⟩
  rw [precedes_iff, Instant.SecondBefore, Instant.unixSeconds_endOf, Instant.unixSeconds_startOf]
  omega

theorem Date.Opens.unique {d e : Date} {month : Int × Nat} (hd : d.Opens month)
    (he : e.Opens month) : d = e := by
  have hof := Date.of?_eq_some_iff.2 hd
  rw [Date.of?_eq_some_iff.2 he, Option.some.injEq] at hof
  exact hof.symm

theorem Date.Closes.unique {d e : Date} {month : Int × Nat} (hd : d.Closes month)
    (he : e.Closes month) : d = e := by
  have hof := Date.of?_eq_some_iff.2 hd
  rw [Date.of?_eq_some_iff.2 he, Option.some.injEq] at hof
  exact hof.symm

/-! ## Windows of months -/

/-- A window covers some months of a year: from the first second of the first day to the last second
of the last day, directly before the next month. -/
def Window.CoversMonths (w : Window) (year : Int) (firstMonth lastMonth : Nat) : Prop :=
  ∃ first last next : Date, first.Opens (year, firstMonth) ∧ last.Closes (year, lastMonth) ∧
    next.Opens (monthAfter year lastMonth) ∧ w = wholeDays first last ∧
    (Instant.endOf last).SecondBefore (.startOf next)

theorem coversMonths_iff {w : Window} {year : Int} {firstMonth lastMonth : Nat}
    (hmonth : 1 ≤ lastMonth) :
    w.CoversMonths year firstMonth lastMonth ↔
      monthsWindow? year firstMonth lastMonth = some w := by
  rw [monthsWindow?_eq_some_iff]
  constructor
  · rintro ⟨first, last, next, hfirst, -, hnext, hw, hsecond⟩
    exact ⟨first, last, next, hfirst, hnext, Date.precedes_iff_secondBefore.2 hsecond, hw⟩
  · rintro ⟨first, last, next, hfirst, hnext, hlast, hw⟩
    exact ⟨first, last, next, hfirst, hlast.closes hnext hmonth, hnext, hw,
      Date.precedes_iff_secondBefore.1 hlast⟩

/-- A window is made up of the three months of a quarter, edge to edge; quarters are numbered from
zero. -/
def Window.TilesMonths (w : Window) (year : Int) (quarter : Nat) : Prop :=
  ∃ w₁ w₂ w₃ : Window,
    w₁.CoversMonths year (3 * quarter + 1) (3 * quarter + 1) ∧
    w₂.CoversMonths year (3 * quarter + 2) (3 * quarter + 2) ∧
    w₃.CoversMonths year (3 * quarter + 3) (3 * quarter + 3) ∧
    w₁.Abuts w₂ ∧ w₂.Abuts w₃ ∧ w.Spans w₁ w₃

theorem monthAfter_of_lt {year : Int} {month next : Nat} (h : month < 12)
    (hnext : month + 1 = next) : monthAfter year month = (year, next) := by
  rw [monthAfter, if_neg (by omega), hnext]

section CoversMonths

variable {w v u : Window} {year year' : Int} {a b c d : Nat}

theorem Window.CoversMonths.abuts (hw : w.CoversMonths year a b) (hv : v.CoversMonths year' c d)
    (hmonth : monthAfter year b = (year', c)) : w.Abuts v := by
  obtain ⟨-, last, next, -, -, hnext, rfl, hsecond⟩ := hw
  obtain ⟨first, -, -, hfirst, -, -, rfl, -⟩ := hv
  rw [hmonth] at hnext
  rw [hnext.unique hfirst] at hsecond
  exact ⟨.endOf last, .startOf first, rfl, rfl, hsecond⟩

theorem Window.CoversMonths.spans (hu : u.CoversMonths year a d) (hw : w.CoversMonths year a b)
    (hv : v.CoversMonths year c d) : u.Spans w v := by
  obtain ⟨first, last, -, hfirst, hlast, -, rfl, -⟩ := hu
  obtain ⟨first', -, -, hfirst', -, -, rfl, -⟩ := hw
  obtain ⟨-, last', -, -, hlast', -, rfl, -⟩ := hv
  rw [hfirst.unique hfirst', hlast.unique hlast']
  exact ⟨rfl, rfl⟩

/-- Months of a year that a window covers have windows of their own. -/
theorem Window.CoversMonths.exists_within (hw : w.CoversMonths year a d) (ha : 1 ≤ a) (hd : d ≤ 12)
    (hb : a ≤ b) (hbc : b ≤ c) (hc : c ≤ d) : ∃ v : Window, v.CoversMonths year b c := by
  have hwhole : monthsWindow? year a d ≠ none := by
    rw [(coversMonths_iff (by omega)).1 hw]
    exact Option.some_ne_none w
  rw [ne_eq, monthsWindow?_eq_none_iff (by omega) (by omega)] at hwhole
  -- windows are missing only outside the calendar and at its end, where the whole would be missing
  have hpart : monthsWindow? year b c ≠ none := by
    rw [ne_eq, monthsWindow?_eq_none_iff (by omega) (by omega)]
    omega
  obtain ⟨v, hv⟩ := Option.ne_none_iff_exists'.1 hpart
  exact ⟨v, (coversMonths_iff (by omega)).2 hv⟩

theorem Window.CoversMonths.tilesMonths {quarter : Nat} (hquarter : quarter < 4)
    (hw : w.CoversMonths year (3 * quarter + 1) (3 * quarter + 3)) :
    w.TilesMonths year quarter := by
  have hexists : ∀ month, 3 * quarter + 1 ≤ month → month ≤ 3 * quarter + 3 →
      ∃ v : Window, v.CoversMonths year month month := fun month hfirst hlast =>
    hw.exists_within (by omega) (by omega) hfirst (Nat.le_refl _) hlast
  obtain ⟨w₁, h₁⟩ := hexists (3 * quarter + 1) (by omega) (by omega)
  obtain ⟨w₂, h₂⟩ := hexists (3 * quarter + 2) (by omega) (by omega)
  obtain ⟨w₃, h₃⟩ := hexists (3 * quarter + 3) (by omega) (by omega)
  refine ⟨w₁, w₂, w₃, h₁, h₂, h₃, ?_, ?_, hw.spans h₁ h₃⟩
  · exact h₁.abuts h₂ (monthAfter_of_lt (by omega) rfl)
  · exact h₂.abuts h₃ (monthAfter_of_lt (by omega) rfl)

/-- A window that covers a year is the window of the year. -/
theorem Window.CoversMonths.yearWindow? (hw : w.CoversMonths year 1 12) :
    yearWindow? year = some w := by
  obtain ⟨first, last, -, hfirst, hlast, -, rfl, -⟩ := hw
  exact yearWindow?_eq_some_iff.2 ⟨first, last, hfirst, hlast, rfl⟩

end CoversMonths

theorem exists_coversYear {year : Int} (hyear : firstYear ≤ year ∧ year < lastYear) :
    ∃ w : Window, w.CoversMonths year 1 12 := by
  have hsome : monthsWindow? year 1 12 ≠ none := by
    rw [ne_eq, monthsWindow?_eq_none_iff (by decide) (by decide)]
    omega
  obtain ⟨w, hw⟩ := Option.ne_none_iff_exists'.1 hsome
  exact ⟨w, (coversMonths_iff (by decide)).2 hw⟩

/-! ## Rules -/

namespace PeriodRule

variable {mode : MatchMode} {text : List Char} {now : Instant} {w : Window}

theorem monthAfter_monthBefore (date : Date) :
    monthAfter (monthBefore date).1 (monthBefore date).2 = (date.year, date.month) := by
  have hmonth := date.month_mem
  unfold monthBefore monthAfter
  split
  · rename_i hfirst
    simp [hfirst]
  · have hne : ¬(date.month - 1 = 12) := by omega
    have hback : date.month - 1 + 1 = date.month := by omega
    simp [hne, hback]

theorem coversMonths_of_thisMonth (h : thisMonth.window? mode text now = some w) :
    w.CoversMonths now.date.year now.date.month now.date.month :=
  (coversMonths_iff now.date.month_mem.1).2 (given_eq_some_iff.1 h).2

theorem coversMonths_of_lastMonth (h : lastMonth.window? mode text now = some w) :
    w.CoversMonths (monthBefore now.date).1 (monthBefore now.date).2 (monthBefore now.date).2 :=
  (coversMonths_iff (one_le_monthBefore now.date)).2 (given_eq_some_iff.1 h).2

theorem coversMonths_of_thisQuarter (h : thisQuarter.window? mode text now = some w) :
    w.CoversMonths now.date.year (3 * ((now.date.month - 1) / 3) + 1)
      (3 * ((now.date.month - 1) / 3) + 3) :=
  (coversMonths_iff (Nat.succ_pos _)).2 (quarterWindow?_eq_some_iff.1 (given_eq_some_iff.1 h).2).2

end PeriodRule

/-! ## Tiles -/

open PeriodRule

/-- The windows of the quarters of a year, numbered from one, lie edge to edge and make up the year.
Every quarter is named by some text, and so is the year if it is one from 2000 to 2099. -/
structure QuartersTile (year : Nat) (w : Nat → Window) : Prop where
  written : ∀ quarter, 1 ≤ quarter ∧ quarter ≤ 4 →
    quarterNamed? ('q' :: quarter.digitChar :: ' ' :: padded 4 year) = some (quarter, year)
  window : ∀ quarter, 1 ≤ quarter ∧ quarter ≤ 4 → ∀ mode text now,
    quarterNamed? text = some (quarter, year) →
      PeriodRule.quarterOfYear.window? mode text now = some (w quarter)
  abuts : ∀ quarter, 1 ≤ quarter ∧ quarter ≤ 3 → (w quarter).Abuts (w (quarter + 1))
  yearWritten : 2000 ≤ year ∧ year ≤ 2099 → yearNamed? (padded 4 year) = some year
  span : ∃ first last : Date, (first.year = year ∧ first.month = 1 ∧ first.day = 1) ∧
    (last.year = year ∧ last.month = 12 ∧ last.day = 31) ∧
    (Window.between (.startOf first) (.endOf last)).Spans (w 1) (w 4) ∧
    ∀ mode text now, yearNamed? text = some year →
      PeriodRule.calendarYear.window? mode text now = some (.between (.startOf first) (.endOf last))

/-- The calendar periods around an instant and those that texts name are laid edge to edge. -/
structure PeriodsTile (now : Instant) : Prop where
  /-- A phrase has its window, but for the edges of the calendar. -/
  found : ∀ (rule : PeriodRule) mode text, mode.hasAny text rule.phrases = true →
    ¬rule.AtEdge now → ∃ w, rule.window? mode text now = some w
  yesterday : ∀ mode text w, PeriodRule.yesterday.window? mode text now = some w →
    ∃ day : Date, day.Precedes now.date ∧ w = .between (.startOf day) (.endOf day)
  thisMonth : ∀ mode text w, PeriodRule.thisMonth.window? mode text now = some w →
    w.CoversMonths now.date.year now.date.month now.date.month
  lastMonth : ∀ mode text w, PeriodRule.lastMonth.window? mode text now = some w →
    w.CoversMonths (monthBefore now.date).1 (monthBefore now.date).2 (monthBefore now.date).2 ∧
      ∀ mode' text' v, PeriodRule.thisMonth.window? mode' text' now = some v → w.Abuts v
  thisQuarter : ∀ mode text w, PeriodRule.thisQuarter.window? mode text now = some w →
    ∃ quarter, quarter < 4 ∧
      (3 * quarter + 1 ≤ now.date.month ∧ now.date.month ≤ 3 * quarter + 3) ∧
      w.TilesMonths now.date.year quarter
  quarters : ∀ year, year ≤ 9999 → ∃ w, QuartersTile year w

theorem exists_quartersTile {year : Nat} (hyear : year ≤ 9999) : ∃ w, QuartersTile year w := by
  have hinside : firstYear ≤ (year : Int) ∧ (year : Int) < lastYear := by
    unfold firstYear lastYear
    omega
  obtain ⟨v, hv⟩ := exists_coversYear hinside
  -- the quarters are parts of the year, from which they take their neighbours and their bounds
  have hquarter : ∀ quarter, 1 ≤ quarter ∧ quarter ≤ 4 → ∃ w, quarterWindow? year quarter = some w ∧
      w.CoversMonths year (3 * (quarter - 1) + 1) (3 * (quarter - 1) + 3) := by
    intro quarter hquarter
    obtain ⟨w, hw⟩ := hv.exists_within (b := 3 * (quarter - 1) + 1) (c := 3 * (quarter - 1) + 3)
      (by decide) (by decide) (by omega) (by omega) (by omega)
    exact ⟨w, quarterWindow?_eq_some_iff.2 ⟨hquarter, (coversMonths_iff (by omega)).1 hw⟩, hw⟩
  have hnonempty : Nonempty Window := ⟨v⟩
  choose! w hwindow hcovers using hquarter
  refine ⟨w, ?_⟩
  constructor
  · exact fun quarter hquarter => quarterNamed?_written hquarter hyear
  · intro quarter hquarter mode text now hnamed
    rw [window?_quarterOfYear hnamed]
    exact hwindow quarter hquarter
  · intro quarter hquarter
    exact (hcovers quarter (by omega)).abuts (hcovers (quarter + 1) (by omega))
      (monthAfter_of_lt (by omega) (by omega))
  · exact yearNamed?_written
  · have hspans := hv.spans (hcovers 1 (by decide)) (hcovers 4 (by decide))
    have hwhole := hv.yearWindow?
    obtain ⟨first, last, -, hfirst, hlast, -, rfl, -⟩ := hv
    refine ⟨first, last, hfirst, hlast, hspans, fun mode text now hnamed => ?_⟩
    rw [window?_calendarYear hnamed]
    exact hwhole

theorem periodsTile (now : Instant) : PeriodsTile now := by
  constructor
  · intro rule mode text hphrase hedge
    exact Option.ne_none_iff_exists'.1 (mt (window?_eq_none_iff hphrase).1 hedge)
  · intro mode text w h
    obtain ⟨day, hday, rfl⟩ := Option.map_eq_some_iff.1 (given_eq_some_iff.1 h).2
    exact ⟨day, Date.pred?_eq_some_iff.1 hday, rfl⟩
  · intro mode text w h
    exact coversMonths_of_thisMonth h
  · intro mode text w h
    refine ⟨coversMonths_of_lastMonth h, fun mode' text' v hv => ?_⟩
    exact (coversMonths_of_lastMonth h).abuts (coversMonths_of_thisMonth hv)
      (monthAfter_monthBefore now.date)
  · intro mode text w h
    have hmonth := now.date.month_mem
    have hquarter : (now.date.month - 1) / 3 < 4 := by omega
    exact ⟨(now.date.month - 1) / 3, hquarter, by omega,
      (coversMonths_of_thisQuarter h).tilesMonths hquarter⟩
  · intro year hyear
    exact exists_quartersTile hyear

/-- In a leap year, the month before the first of March. -/
theorem periodsTile_marchFirst :
    ∃ now : Instant, now.date.year = 2024 ∧ now.date.month = 3 ∧
      ∃ w, PeriodRule.lastMonth.window? .wordBoundary "vs last month".toList now = some w ∧
        w.CoversMonths 2024 2 2 ∧
        ∃ v, PeriodRule.thisMonth.window? .wordBoundary "this month".toList now = some v ∧
          w.Abuts v := by
  let now : Instant := .startOf ⟨2024, 3, 1, by decide, by decide, by decide⟩
  let february : Window :=
    wholeDays ⟨2024, 2, 1, by decide, by decide, by decide⟩
      ⟨2024, 2, 29, by decide, by decide, by decide⟩
  let march : Window :=
    wholeDays ⟨2024, 3, 1, by decide, by decide, by decide⟩
      ⟨2024, 3, 31, by decide, by decide, by decide⟩
  have hlast : PeriodRule.lastMonth.window? .wordBoundary "vs last month".toList now =
      some february := by decide +kernel
  have hthis : PeriodRule.thisMonth.window? .wordBoundary "this month".toList now =
      some march := by decide +kernel
  obtain ⟨hcovers, habuts⟩ := (periodsTile now).lastMonth _ _ _ hlast
  exact ⟨now, rfl, rfl, february, hlast, hcovers, march, hthis, habuts _ _ _ hthis⟩

end ReportPlan
