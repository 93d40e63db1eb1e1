import ReportPlan.Period
import ReportPlan.Proofs.Calendar.DayOrder

/-! # Windows are bounded on both sides and in order

Whatever the instant, also in a leap second and at either end of the calendar, a window has both
bounds in order or none. A rule that counts from the present starts no later than the present, and a
phrase misses its window only where a day that it is computed from is not in the calendar.

* `monthsWindow?_eq_some_iff`: the window of some months, from its first day to the day before the
  next month.
* `PeriodRule.ordered_of_window?`: the bounds of the windows that rules yield.
* `PeriodRule.AtEdge`, `PeriodRule.window?_eq_none_iff`: where phrases miss.
* `windowIn_isOrdered`: all of this for the ladder.
-/

set_option autoImplicit false

namespace ReportPlan

/-! ## Days of months -/

namespace Date

theorem Opens.number_eq {d : Date} {year : Int} {month : Nat} (h : d.Opens (year, month)) :
    d.number = daysBeforeYear year + daysBeforeMonth year month - epoch := by
  have hyear : d.year = year := h.1
  have hmonth : d.month = month := h.2.1
  rw [number, hyear, hmonth, h.2.2]
  omega

theorem Opens.number_monthAfter {d : Date} {year : Int} {month : Nat}
    (h : d.Opens (monthAfter year month)) :
    d.number = daysBeforeYear year + daysBeforeMonth year (month + 1) - epoch := by
  unfold monthAfter at h
  split at h
  · rename_i h12
    have hyears := daysBeforeYear_succ year
    have hzero : daysBeforeMonth (year + 1) 1 = 0 := rfl
    have hd := h.number_eq
    rw [h12, daysBeforeMonth_thirteen]
    omega
  · exact h.number_eq

/-- The first day of a month is not after a date of the same year, if the month is not. -/
theorem Opens.number_le {d e : Date} {month : Nat} (h : d.Opens (e.year, month))
    (hmonth : month ≤ e.month) : d.number ≤ e.number := by
  have hd := h.number_eq
  have hle : daysBeforeMonth e.year month ≤ daysBeforeMonth e.year e.month :=
    daysBeforeMonth_le hmonth
  have he : e.number = daysBeforeYear e.year + daysBeforeMonth e.year e.month + (e.day - 1 : Nat) -
      epoch := rfl
  omega

end Date

/-! ## Windows of months and years -/

theorem monthsWindow?_eq_some_iff {year : Int} {firstMonth lastMonth : Nat} {w : Window} :
    monthsWindow? year firstMonth lastMonth = some w ↔
      ∃ first last next : Date, first.Opens (year, firstMonth) ∧
        next.Opens (monthAfter year lastMonth) ∧ last.Precedes next ∧ w = wholeDays first last := by
  simp only [monthsWindow?, Option.bind_eq_bind, Option.bind_eq_some_iff, Date.of?_eq_some_iff,
    lastOfMonth?_eq_some_iff, Option.some.injEq, Date.Opens]
  constructor
  · rintro ⟨first, hfirst, last, ⟨next, hnext, hlast⟩, rfl⟩
    exact ⟨first, last, next, hfirst, hnext, hlast, rfl⟩
  · rintro ⟨first, last, next, hfirst, hnext, hlast, rfl⟩
    exact ⟨first, hfirst, last, ⟨next, hnext, hlast⟩, rfl⟩

theorem number_le_of_months {year : Int} {firstMonth lastMonth : Nat} {first last next : Date}
    (hmonths : 1 ≤ firstMonth ∧ firstMonth ≤ lastMonth) (hfirst : first.Opens (year, firstMonth))
    (hnext : next.Opens (monthAfter year lastMonth)) (hlast : last.Precedes next) :
    first.number ≤ last.number := by
  have hlastMonth : last.month = lastMonth := (hlast.closes hnext (by omega)).2.1
  have hpos : 1 ≤ daysInMonth year lastMonth :=
    daysInMonth_pos (by have := last.month_mem; omega)
  have hle : daysBeforeMonth year firstMonth ≤ daysBeforeMonth year lastMonth :=
    daysBeforeMonth_le hmonths.2
  have hsucc : daysBeforeMonth year (lastMonth + 1) =
      daysBeforeMonth year lastMonth + daysInMonth year lastMonth := rfl
  have hnumber := hlast.number_succ
  rw [hnext.number_monthAfter] at hnumber
  rw [hfirst.number_eq]
  omega

/-- The window of some months is missing only outside the calendar, and for its last month. -/
theorem monthsWindow?_eq_none_iff {year : Int} {firstMonth lastMonth : Nat}
    (hfirst : 1 ≤ firstMonth ∧ firstMonth ≤ 12) (hlast : 1 ≤ lastMonth ∧ lastMonth ≤ 12) :
    monthsWindow? year firstMonth lastMonth = none ↔
      ¬(firstYear ≤ year ∧ year ≤ lastYear) ∨ (year = lastYear ∧ lastMonth = 12) := by
  rw [Option.eq_none_iff_forall_ne_some]
  constructor
  · intro hnone
    refine Decidable.or_iff_not_not_and_not.2 fun ⟨hyear, hedge⟩ => ?_
    rw [Decidable.not_not] at hyear
    obtain ⟨first, hopens⟩ := Date.exists_opens hyear hfirst
    obtain ⟨next, hnext⟩ := (exists_opens_monthAfter hyear hlast).2 hedge
    -- the day before the next month exists, since the last of the months has days before it
    obtain ⟨last, hprecedes⟩ : ∃ last : Date, last.Precedes next := by
      refine Date.exists_previous fun hfirstDay => ?_
      have hnewYear : next.Opens (firstYear, 1) := hfirstDay
      have hnumber := hnext.number_monthAfter
      rw [hnewYear.number_eq] at hnumber
      have hzero : daysBeforeMonth firstYear 1 = 0 := rfl
      have hsucc : daysBeforeMonth year (lastMonth + 1) =
        daysBeforeMonth year lastMonth + daysInMonth year lastMonth := rfl
      have hpos : 1 ≤ daysInMonth year lastMonth := daysInMonth_pos hlast
      have hle := daysBeforeYear_mono hyear.1
      omega
    exact hnone _ (monthsWindow?_eq_some_iff.2 ⟨first, last, next, hopens, hnext, hprecedes, rfl⟩)
  · rintro hout w hw
    obtain ⟨first, -, next, hopens, hnext, -⟩ := monthsWindow?_eq_some_iff.1 hw
    have heq : first.year = year := hopens.1
    have hyear := first.year_mem
    rw [heq] at hyear
    exact hout.elim (fun hbeyond => hbeyond hyear)
      ((exists_opens_monthAfter hyear hlast).1 ⟨next, hnext⟩)

theorem yearWindow?_eq_some_iff {year : Int} {w : Window} :
    yearWindow? year = some w ↔
      ∃ first last : Date, first.Opens (year, 1) ∧ last.Closes (year, 12) ∧
        w = wholeDays first last := by
  simp only [yearWindow?, Option.bind_eq_bind, Option.bind_eq_some_iff, Date.of?_eq_some_iff,
    Option.some.injEq, Date.Opens, Date.Closes, daysInMonth]
  constructor
  · rintro ⟨first, hfirst, last, hlast, rfl⟩
    exact ⟨first, last, hfirst, hlast, rfl⟩
  · rintro ⟨first, last, hfirst, hlast, rfl⟩
    exact ⟨first, hfirst, last, hlast, rfl⟩

/-! ## Rules -/

/-- A window without bounds, or with both of them in order. -/
def Window.IsOrdered (w : Window) : Prop :=
  w = .allTime ∨ ∃ start stop, w = .between start stop ∧ start ≤ stop

namespace PeriodRule

/-- Whether a rule counts from the present; the others name their year. -/
def isRelative : PeriodRule → Bool
  | quarterOfYear => false
  | calendarYear => false
  | _ => true

/-- The phrases of a rule that is not found by a pattern. -/
def phrases : PeriodRule → List String
  | today => ["today"]
  | yesterday => ["yesterday"]
  | thisMonth => ["this month"]
  | lastMonth => ["last month"]
  | thisQuarter => ["this quarter"]
  | thisYear => ["this year", "ytd"]
  | lastDays => []
  | quarterOfYear => []
  | calendarYear => []

/-- The instants at which a phrase has no window: the day before, the month before, or the day after
the period is not in the calendar. -/
def AtEdge (now : Instant) : PeriodRule → Prop
  | yesterday => now.date.year = firstYear ∧ now.date.month = 1 ∧ now.date.day = 1
  | lastMonth => now.date.year = firstYear ∧ now.date.month = 1
  | thisMonth => now.date.year = lastYear ∧ now.date.month = 12
  | thisQuarter => now.date.year = lastYear ∧ 10 ≤ now.date.month
  | _ => False

variable {mode : MatchMode} {text : List Char} {now : Instant}

theorem given_eq_some_iff {applies : Bool} {window : Option Window} {w : Window} :
    given applies window = some w ↔ applies = true ∧ window = some w := by
  rw [given, Option.ite_none_right_eq_some]

theorem one_le_monthBefore (date : Date) : 1 ≤ (monthBefore date).2 := by
  have hmonth := date.month_mem
  unfold monthBefore
  split
  · exact Nat.succ_pos 11
  · show 1 ≤ date.month - 1
    omega

theorem number_le_of_opens_monthBefore {first today : Date} (h : first.Opens (monthBefore today)) :
    first.number ≤ today.number := by
  unfold monthBefore at h
  split at h
  · have hyear : first.year + 1 = today.year := by
      rw [h.1]
      exact Int.sub_add_cancel _ _
    have hfirst := first.number_bounds.2
    have htoday := today.number_bounds.1
    rw [hyear] at hfirst
    omega
  · exact h.number_le (Nat.sub_le _ _)

/-- The window of some months that begin no later than the present has the bounds that are asked
for. -/
theorem bounds_of_monthsWindow? {year : Int} {firstMonth lastMonth : Nat} {w : Window}
    (h : monthsWindow? year firstMonth lastMonth = some w)
    (hmonths : 1 ≤ firstMonth ∧ firstMonth ≤ lastMonth) :
    ∃ first : Date, first.Opens (year, firstMonth) ∧
      ∃ stop, w = .between (.startOf first) stop ∧ .startOf first ≤ stop := by
  obtain ⟨first, last, next, hfirst, hnext, hlast, rfl⟩ := monthsWindow?_eq_some_iff.1 h
  exact ⟨first, hfirst, .endOf last, rfl,
    Instant.startOf_le_endOf_of_le (number_le_of_months hmonths hfirst hnext hlast)⟩

theorem ordered_of_window? {rule : PeriodRule} {w : Window}
    (h : rule.window? mode text now = some w) :
    ∃ start stop, w = .between start stop ∧ start ≤ stop ∧
      (rule.isRelative = true → start ≤ now) := by
  have hmonth := now.date.month_mem
  -- but for `today` and `last N days` a window begins with a day, which is compared with the present
  cases rule with
  | today =>
    obtain ⟨-, hw⟩ := given_eq_some_iff.1 h
    cases hw
    exact ⟨now, now, rfl, now.le_refl, fun _ => now.le_refl⟩
  | yesterday =>
    obtain ⟨-, hw⟩ := given_eq_some_iff.1 h
    obtain ⟨day, hday, rfl⟩ := Option.map_eq_some_iff.1 hw
    have hnumber := (Date.pred?_eq_some_iff.1 hday).number_succ
    exact ⟨_, _, rfl, Instant.startOf_le_endOf day, fun _ => Instant.startOf_le_of_le (by omega)⟩
  | lastDays =>
    simp only [window?, Option.bind_eq_bind, Option.bind_eq_some_iff, Option.some.injEq] at h
    obtain ⟨m, -, days, -, start, hstart, rfl⟩ := h
    have hle := Instant.minusDays?_le hstart
    exact ⟨start, now, rfl, hle, fun _ => hle⟩
  | thisMonth =>
    obtain ⟨-, hw⟩ := given_eq_some_iff.1 h
    obtain ⟨first, hfirst, stop, rfl, hle⟩ := bounds_of_monthsWindow? hw ⟨hmonth.1, Nat.le_refl _⟩
    exact ⟨_, _, rfl, hle, fun _ => Instant.startOf_le_of_le (hfirst.number_le (Nat.le_refl _))⟩
  | lastMonth =>
    obtain ⟨-, hw⟩ := given_eq_some_iff.1 h
    obtain ⟨first, hfirst, stop, rfl, hle⟩ :=
      bounds_of_monthsWindow? hw ⟨one_le_monthBefore now.date, Nat.le_refl _⟩
    exact ⟨_, _, rfl, hle,
      fun _ => Instant.startOf_le_of_le (number_le_of_opens_monthBefore hfirst)⟩
  | thisQuarter =>
    obtain ⟨-, hw⟩ := given_eq_some_iff.1 h
    obtain ⟨-, hmonths⟩ := quarterWindow?_eq_some_iff.1 hw
    obtain ⟨first, hfirst, stop, rfl, hle⟩ := bounds_of_monthsWindow? hmonths (by omega)
    exact ⟨_, _, rfl, hle, fun _ => Instant.startOf_le_of_le (hfirst.number_le (by omega))⟩
  | quarterOfYear =>
    simp only [window?, Option.bind_eq_bind, Option.bind_eq_some_iff] at h
    obtain ⟨m, -, quarter, -, year, -, hw⟩ := h
    obtain ⟨-, hmonths⟩ := quarterWindow?_eq_some_iff.1 hw
    obtain ⟨first, -, stop, rfl, hle⟩ := bounds_of_monthsWindow? hmonths (by omega)
    exact ⟨_, _, rfl, hle, fun hrelative => nomatch hrelative⟩
  | thisYear =>
    obtain ⟨-, hw⟩ := given_eq_some_iff.1 h
    obtain ⟨first, hfirst, rfl⟩ := Option.map_eq_some_iff.1 hw
    have hopens : first.Opens (now.date.year, 1) := Date.of?_eq_some_iff.1 hfirst
    have hle := Instant.startOf_le_of_le (hopens.number_le hmonth.1)
    exact ⟨_, _, rfl, hle, fun _ => hle⟩
  | calendarYear =>
    simp only [window?, Option.bind_eq_bind, Option.bind_eq_some_iff] at h
    obtain ⟨m, -, year, -, hw⟩ := h
    obtain ⟨first, last, hfirst, hlast, rfl⟩ := yearWindow?_eq_some_iff.1 hw
    have hyear : first.Opens (last.year, 1) := ⟨hfirst.1.trans hlast.1.symm, hfirst.2⟩
    exact ⟨_, _, rfl, Instant.startOf_le_endOf_of_le (hyear.number_le last.month_mem.1),
      fun hrelative => nomatch hrelative⟩

/-- A phrase of the text misses its window only at the edge of the calendar. -/
theorem window?_eq_none_iff {rule : PeriodRule} (h : mode.hasAny text rule.phrases = true) :
    rule.window? mode text now = none ↔ rule.AtEdge now := by
  have hyear := now.date.year_mem
  have hmonth := now.date.month_mem
  have hgiven : ∀ window : Option Window, given true window = window := fun _ => rfl
  cases rule with
  | today =>
    have hhas : mode.has text "today" = true := by simpa [phrases, MatchMode.hasAny] using h
    simp [window?, hhas, hgiven, AtEdge]
  | yesterday =>
    have hhas : mode.has text "yesterday" = true := by simpa [phrases, MatchMode.hasAny] using h
    simp only [window?, hhas, hgiven, Option.map_eq_none_iff, Date.pred?_eq_none_iff, AtEdge]
  | lastDays => cases h
  | thisMonth =>
    have hhas : mode.has text "this month" = true := by simpa [phrases, MatchMode.hasAny] using h
    simp only [window?, hhas, hgiven, monthWindow?, AtEdge]
    rw [monthsWindow?_eq_none_iff hmonth hmonth]
    omega
  | lastMonth =>
    have hhas : mode.has text "last month" = true := by simpa [phrases, MatchMode.hasAny] using h
    simp only [window?, hhas, hgiven, monthWindow?, AtEdge]
    unfold monthBefore
    split
    · have hdecember : 1 ≤ 12 ∧ 12 ≤ 12 := by decide
      rw [monthsWindow?_eq_none_iff hdecember hdecember]
      omega
    · rw [monthsWindow?_eq_none_iff (by omega) (by omega)]
      omega
  | thisQuarter =>
    have hhas : mode.has text "this quarter" = true := by simpa [phrases, MatchMode.hasAny] using h
    simp only [window?, hhas, hgiven, quarterWindow?, AtEdge]
    rw [if_pos (by omega), monthsWindow?_eq_none_iff (by omega) (by omega)]
    omega
  | quarterOfYear => cases h
  | thisYear =>
    have hhas : mode.hasAny text ["this year", "ytd"] = true := h
    obtain ⟨first, hopens⟩ : ∃ first : Date, first.Opens (now.date.year, 1) :=
      Date.exists_opens hyear (by decide)
    have hfirst : Date.of? now.date.year 1 1 = some first := Date.of?_eq_some_iff.2 hopens
    simp [window?, hhas, hgiven, hfirst, AtEdge]
  | calendarYear => cases h

end PeriodRule

/-! ## The ladder -/

/-- The window of every text at every instant is in order. So is that of each single rule; one that
counts from the present starts no later than the present, and a phrase of the text misses its window
only at the edge of the calendar. -/
theorem windowIn_isOrdered (mode : MatchMode) (text : List Char) (now : Instant) :
    (windowIn mode text now).IsOrdered ∧
    (∀ (rule : PeriodRule) (w : Window), rule.window? mode text now = some w →
      ∃ start stop, w = .between start stop ∧ start ≤ stop ∧
        (rule.isRelative = true → start ≤ now)) ∧
    (∀ rule : PeriodRule, mode.hasAny text rule.phrases = true →
      (rule.window? mode text now = none ↔ rule.AtEdge now)) := by
  refine ⟨?_, fun rule w h => PeriodRule.ordered_of_window? h,
    fun rule h => PeriodRule.window?_eq_none_iff h⟩
  unfold windowIn
  split
  · rename_i rule w hfired
    obtain ⟨start, stop, hw, hle, -⟩ :=
      PeriodRule.ordered_of_window? (window?_of_firedRule? hfired)
    exact .inr ⟨start, stop, hw, hle⟩
  · exact .inl rfl

/-- The last leap second of the calendar: this month has no window there, and the year up to now has
one. -/
theorem windowIn_isOrdered_lastInstant :
    ∃ now : Instant, now.date.year = lastYear ∧ now.nano = 1999999999 ∧
      PeriodRule.thisMonth.window? .wordBoundary "this month, or ytd".toList now = none ∧
      ∃ start, windowIn .wordBoundary "this month, or ytd".toList now = .between start now ∧
        start ≤ now := by
  let now : Instant :=
    ⟨⟨lastYear, 12, 31, by decide, by decide, by decide⟩, 86399, 1999999999,
      by decide, by decide, by decide⟩
  have hordered := windowIn_isOrdered .wordBoundary "this month, or ytd".toList now
  refine ⟨now, rfl, rfl, ?_, ?_⟩
  · exact (hordered.2.2 .thisMonth (by decide +kernel)).2 ⟨rfl, rfl⟩
  · obtain ⟨start, stop, hw, hle, -⟩ := hordered.2.1 .thisYear
      (.between (.startOf ⟨lastYear, 1, 1, by decide, by decide, by decide⟩) now)
      (by decide +kernel)
    cases hw
    exact ⟨_, by decide +kernel, hle⟩

end ReportPlan
