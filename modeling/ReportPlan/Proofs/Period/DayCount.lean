import ReportPlan.Proofs.Calendar.DaysEarlier
import ReportPlan.Proofs.Period.Phrases

/-! # Counted days

`last 30 days` begins exactly 30 days before the present, whatever the number and however many zeros
stand in front of it. Where the calendar does not reach back so far the rule has no window, and the
other rules decide. The limits of counting lie beyond the calendar, so they never make a difference.

* `lastDaysText`: a text with a numeral between the words `last` and `days`.
* `PeriodRule.find?_lastDaysText`: this numeral is the one that is found.
* `PeriodRule.window?_lastDays_eq_some_iff`: a count has a window wherever the calendar has its first
  instant.
* `firedRule?_eq_findSome?_erase`: a rule without a window may be left out of the ladder.
* `firedRule?_lastDaysText`: the rule that fires, and its window, for every numeral.
-/

set_option autoImplicit false

namespace ReportPlan

open Pattern Text

/-- A text with a numeral between the words `last` and `days`. -/
def lastDaysText (front numeral rest : List Char) : List Char :=
  front ++ "last ".toList ++ numeral ++ " days".toList ++ rest

namespace PeriodRule

/-! ## The numeral that is found -/

theorem find?_lastDaysText {front numeral : List Char} (rest : List Char)
    (hfront : ¬"last".toList <:+: front) (hnumeral : numeral ≠ [] ∧ AllDigits numeral) :
    lastDaysPattern.find? (lastDaysText front numeral rest) =
      some ⟨front.length, [(.days, ⟨front.length + 5, numeral⟩)]⟩ := by
  have hgap : [' '] ≠ [] ∧ ∀ c ∈ [' '], isBlank c = true :=
    ⟨List.cons_ne_nil _ _, List.forall_mem_singleton.2 isBlank_space⟩
  have hdigits : numeral ≠ [] ∧ ∀ c ∈ numeral, isDigit c = true :=
    ⟨hnumeral.1, hnumeral.2.isDigit⟩
  have htext : lastDaysText front numeral rest =
      front ++ ("last".toList ++ ([' '] ++ (numeral ++ ([' '] ++ "day".toList))) ++ 's' :: rest) := by
    simp [lastDaysText]
  have hspells : lastDaysPattern.Spells front.reverse
      ("last".toList ++ ([' '] ++ (numeral ++ ([' '] ++ "day".toList)))) ('s' :: rest) []
      [(.days, ⟨front.length + 5, numeral⟩)] :=
    spells_lastDaysPattern.2 ⟨[' '], numeral, [' '], rfl, hgap, hdigits, hgap, by simp⟩
  have hmatches := (matchesAt_of_matchAt? (matchAt?_of_spells lastDaysPattern_unambiguous hspells)).1
  rw [← htext] at hmatches
  have hfirst : IsFirst (lastDaysPattern.MatchesAt (lastDaysText front numeral rest)) front
      [(.days, ⟨front.length + 5, numeral⟩)] := by
    refine isFirst_of_not_infix (c := 'l') (by decide) hfront htext hmatches fun before captures h => ?_
    obtain ⟨start, days, ⟨gap, gap', after, hsplit, -⟩, -⟩ := lastDaysAt_of_matchesAt h
    exact ⟨gap ++ (days ++ (gap' ++ "day".toList)) ++ after, hsplit⟩
  exact find?_eq_some_iff_isFirst.2 ⟨front, _, hfirst, rfl⟩

/-! ## Windows of counts -/

theorem calendarDays_mul_dayMillis_le : Instant.calendarDays * dayMillis ≤ greatestCount := by
  decide +kernel

/-- A count that the calendar reaches back to is within the limits. -/
theorem dayCount?_of_isDaysBefore {m : Pattern.Match PeriodPart} {n : Nat} {start now : Instant}
    (hn : number? m .days = some n) (h : start.IsDaysBefore now n) : dayCount? m = some n := by
  have hmillis : n * dayMillis ≤ greatestCount :=
    Nat.le_trans (Nat.mul_le_mul_right _ h.le_calendarDays) calendarDays_mul_dayMillis_le
  have hcount : n ≤ greatestCount :=
    Nat.le_trans (Nat.le_mul_of_pos_right n (by decide)) hmillis
  simp [dayCount?, hn, hcount, hmillis]

/-- The window of a count that is found goes from the instant that many days ago to the present. -/
theorem window?_lastDays_eq_some_iff {mode : MatchMode} {text : List Char} {now : Instant}
    {m : Pattern.Match PeriodPart} {n : Nat} (hm : lastDaysPattern.find? text = some m)
    (hn : number? m .days = some n) {w : Window} :
    lastDays.window? mode text now = some w ↔
      ∃ start : Instant, start.IsDaysBefore now n ∧ w = .between start now := by
  simp only [window?, hm, Option.bind_eq_bind, Option.bind_some, Option.bind_eq_some_iff,
    Option.some.injEq, Instant.minusDays?_eq_some_iff]
  constructor
  · rintro ⟨n', hcount, start, hstart, rfl⟩
    have hsame : number? m .days = some n' := (Option.filter_eq_some_iff.1 hcount).1
    obtain rfl : n = n' := Option.some.inj (hn.symm.trans hsame)
    exact ⟨start, hstart, rfl⟩
  · rintro ⟨start, hstart, rfl⟩
    exact ⟨n, dayCount?_of_isDaysBefore hn hstart, start, hstart, rfl⟩

theorem number?_lastDays {front numeral : List Char} (hnumeral : numeral ≠ [] ∧ AllDigits numeral) :
    number? ⟨front.length, [(.days, ⟨front.length + 5, numeral⟩)]⟩ .days =
      some (decimalValue numeral) :=
  readNat_eq hnumeral.2 hnumeral.1

end PeriodRule

/-! ## The ladder -/

section Ladder

variable {mode : MatchMode} {text : List Char} {now : Instant}

theorem firedRule?_eq_findSome?_erase {rule : PeriodRule} (h : rule.window? mode text now = none) :
    firedRule? mode text now =
      (PeriodRule.all.erase rule).findSome? fun r => (r.window? mode text now).map (r, ·) := by
  rw [findSome?_erase (by simp [h])]
  rfl

/-- The count decides if the text names neither today nor yesterday. -/
theorem firedRule?_of_lastDays {w : Window} (htoday : mode.has text "today" = false)
    (hyesterday : mode.has text "yesterday" = false)
    (hw : PeriodRule.lastDays.window? mode text now = some w) :
    firedRule? mode text now = some (.lastDays, w) := by
  have htodayNone : PeriodRule.today.window? mode text now = none := by
    simp [PeriodRule.window?, PeriodRule.given, htoday]
  have hyesterdayNone : PeriodRule.yesterday.window? mode text now = none := by
    simp [PeriodRule.window?, PeriodRule.given, hyesterday]
  simp [firedRule?, PeriodRule.all, htodayNone, hyesterdayNone, hw]

end Ladder

/-- The instant some days ago that is found is exactly so many days ago. A numeral whose instant the
calendar has gives the window from there to the present; with any other one the rule does not fire,
and the window is that of the other rules. -/
theorem firedRule?_lastDaysText {mode : MatchMode} {front numeral rest : List Char} {now : Instant}
    (hfront : ¬"last".toList <:+: front) (hnumeral : numeral ≠ [] ∧ AllDigits numeral)
    (htoday : mode.has (lastDaysText front numeral rest) "today" = false)
    (hyesterday : mode.has (lastDaysText front numeral rest) "yesterday" = false) :
    (∀ start : Instant, now.minusDays? (decimalValue numeral) = some start ↔
      start.IsDaysBefore now (decimalValue numeral)) ∧
    (∀ start : Instant, start.IsDaysBefore now (decimalValue numeral) →
      firedRule? mode (lastDaysText front numeral rest) now =
        some (.lastDays, .between start now)) ∧
    ((∀ start : Instant, ¬start.IsDaysBefore now (decimalValue numeral)) →
      (∀ w, firedRule? mode (lastDaysText front numeral rest) now ≠ some (.lastDays, w)) ∧
      firedRule? mode (lastDaysText front numeral rest) now =
        (PeriodRule.all.erase .lastDays).findSome? fun rule =>
          (rule.window? mode (lastDaysText front numeral rest) now).map (rule, ·)) := by
  have hwindow : ∀ w, PeriodRule.lastDays.window? mode (lastDaysText front numeral rest) now = some w ↔
      ∃ start : Instant, start.IsDaysBefore now (decimalValue numeral) ∧ w = .between start now :=
    fun w => PeriodRule.window?_lastDays_eq_some_iff
      (PeriodRule.find?_lastDaysText rest hfront hnumeral) (PeriodRule.number?_lastDays hnumeral)
  refine ⟨fun start => Instant.minusDays?_eq_some_iff, fun start hstart => ?_, fun hnone => ?_⟩
  · exact firedRule?_of_lastDays htoday hyesterday ((hwindow _).2 ⟨start, hstart, rfl⟩)
  · have hdeclines : ∀ w,
        PeriodRule.lastDays.window? mode (lastDaysText front numeral rest) now ≠ some w := by
      intro w hw
      obtain ⟨start, hstart, -⟩ := (hwindow w).1 hw
      exact hnone start hstart
    exact ⟨fun w hfired => hdeclines w (window?_of_firedRule? hfired),
      firedRule?_eq_findSome?_erase (Option.eq_none_iff_forall_ne_some.2 hdeclines)⟩

/-- Thirty days before a leap second, with zeros in front of the number; and a number of days that the
calendar does not reach back to, with another period behind it. -/
theorem firedRule?_lastDaysText_leapSecond :
    ∃ now start : Instant, now.isLeap = true ∧
      firedRule? .wordBoundary (lastDaysText "trades of the ".toList "0030".toList ", by desk".toList)
        now = some (.lastDays, .between start now) ∧
      ∃ w, firedRule? .wordBoundary (lastDaysText [] "200000000".toList ", or this month".toList) now =
        some (.thisMonth, w) := by
  let now : Instant :=
    ⟨⟨2016, 12, 31, by decide, by decide, by decide⟩, 86399, 1500000000, by decide, by decide,
      by decide⟩
  let start : Instant :=
    ⟨⟨2016, 12, 2, by decide, by decide, by decide⟩, 0, 500000000, by decide, by decide, by decide⟩
  have hthirty : AllDigits "0030".toList := List.all_eq_true.1 (by decide)
  have hmany : AllDigits "200000000".toList := List.all_eq_true.1 (by decide)
  have hcounted := @firedRule?_lastDaysText .wordBoundary "trades of the ".toList "0030".toList
    ", by desk".toList now (by decide +kernel) ⟨by decide, hthirty⟩ (by decide +kernel)
    (by decide +kernel)
  have hbeyond := @firedRule?_lastDaysText .wordBoundary [] "200000000".toList
    ", or this month".toList now (by decide +kernel) ⟨by decide, hmany⟩ (by decide +kernel)
    (by decide +kernel)
  refine ⟨now, start, by decide, hcounted.2.1 start ((hcounted.1 start).1 (by decide +kernel)), ?_⟩
  refine ⟨wholeDays ⟨2016, 12, 1, by decide, by decide, by decide⟩ now.date, ?_⟩
  rw [(hbeyond.2.2 fun start h => absurd h.le_calendarDays (by decide +kernel)).2]
  decide +kernel

end ReportPlan
