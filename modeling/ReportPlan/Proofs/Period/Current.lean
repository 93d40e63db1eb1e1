import ReportPlan.Proofs.Period.Tiling

/-! # The current period and the present

The windows of this month and of this quarter are made of whole days that the present lies among,
and they end with the last whole second of the last of these days. So the present is in its period
but for the fraction of that one second, and for a leap second behind it.

* `Instant.le_endOf_iff`: which instants of a day, or of days before it, are not after its end.
* `Window.CoversMonths.bounds`: the bounds of a window of months that the present lies among.
* `current_contains`: the present in this month or this quarter, by the ladder.
* `current_ends_early`: instants of this month and this quarter that are after its window.
-/

set_option autoImplicit false

namespace ReportPlan

variable {now : Instant}

/-- An instant behind the beginning of the last second of a day. -/
def Instant.InLastFraction (i : Instant) (day : Date) : Prop :=
  i.date = day ∧ i.second = 86399 ∧ 0 < i.nano

/-- Of the instants that belong to a day or to one before it, those in the fraction of the last
second come after the end of the day, and no others. -/
theorem Instant.le_endOf_iff {day : Date} (h : now.date.number ≤ day.number) :
    now ≤ .endOf day ↔ ¬now.InLastFraction day := by
  have hseconds : now.unixSeconds = now.date.number * 86400 + now.second := rfl
  have hsecond : now.second < 86400 := now.second_lt
  have hnano : (Instant.endOf day).nano = 0 := rfl
  have hday : now.date = day ↔ now.date.number = day.number :=
    ⟨congrArg Date.number, Date.number_injective⟩
  rw [le_iff, unixSeconds_endOf, hseconds, hnano, InLastFraction, hday]
  omega

theorem Window.CoversMonths.bounds {w : Window} {a b : Nat}
    (hw : w.CoversMonths now.date.year a b) (hmonth : a ≤ now.date.month ∧ now.date.month ≤ b) :
    ∃ first last : Date, w = wholeDays first last ∧ .startOf first ≤ now ∧
      now.date.number ≤ last.number := by
  obtain ⟨first, last, next, hfirst, -, hnext, rfl, hsecond⟩ := hw
  refine ⟨first, last, rfl, Instant.startOf_le_of_le (hfirst.number_le hmonth.1), ?_⟩
  -- the present is not after its month, which ends before the next one after the window begins
  have hlast := (Date.precedes_iff_secondBefore.2 hsecond).number_succ
  have hle : daysBeforeMonth now.date.year (now.date.month + 1) ≤
      daysBeforeMonth now.date.year (b + 1) := daysBeforeMonth_le (Nat.succ_le_succ hmonth.2)
  have hsucc : daysBeforeMonth now.date.year (now.date.month + 1) =
      daysBeforeMonth now.date.year now.date.month +
        daysInMonth now.date.year now.date.month := rfl
  have hday := now.date.day_mem
  rw [hnext.number_monthAfter] at hlast
  rw [Date.number]
  omega

/-- The present is not before this month or this quarter, and not after it unless it lies in the
fraction of its last second. -/
theorem current_contains {mode : MatchMode} {text : List Char} {rule : PeriodRule} {w : Window}
    (hrule : rule = .thisMonth ∨ rule = .thisQuarter)
    (h : firedRule? mode text now = some (rule, w)) :
    ∃ start last, w = .between start (.endOf last) ∧ start ≤ now ∧
      (now ≤ .endOf last ↔ ¬now.InLastFraction last) := by
  have hmonth := now.date.month_mem
  obtain ⟨first, last, rfl, hstart, hlast⟩ : ∃ first last : Date, w = wholeDays first last ∧
      .startOf first ≤ now ∧ now.date.number ≤ last.number := by
    rcases hrule with rfl | rfl
    · exact (PeriodRule.coversMonths_of_thisMonth (window?_of_firedRule? h)).bounds
        ⟨Nat.le_refl _, Nat.le_refl _⟩
    · exact (PeriodRule.coversMonths_of_thisQuarter (window?_of_firedRule? h)).bounds (by omega)
  exact ⟨.startOf first, last, rfl, hstart, Instant.le_endOf_iff hlast⟩

/-- The last whole second of a leap February is still in it. -/
theorem current_contains_february :
    ∃ now : Instant, now.date.day = 29 ∧ now.second = 86399 ∧
      ∃ w, firedRule? .wordBoundary "kyc this month, this quarter".toList now =
          some (.thisMonth, w) ∧
        ∃ start last, w = .between start (.endOf last) ∧ start ≤ now ∧ now ≤ .endOf last := by
  let now : Instant := .endOf ⟨2024, 2, 29, by decide, by decide, by decide⟩
  let february : Window :=
    wholeDays ⟨2024, 2, 1, by decide, by decide, by decide⟩
      ⟨2024, 2, 29, by decide, by decide, by decide⟩
  have hfired : firedRule? .wordBoundary "kyc this month, this quarter".toList now =
      some (.thisMonth, february) := by decide +kernel
  obtain ⟨start, last, hw, hstart, hstop⟩ := current_contains (.inl rfl) hfired
  refine ⟨now, rfl, rfl, february, hfired, start, last, hw, hstart, hstop.2 ?_⟩
  rintro ⟨-, -, hnano⟩
  exact absurd hnano (by decide)

/-- Half a second before the end of a month, and in a leap second at the end of a quarter, the
window of the current period is over. -/
theorem current_ends_early :
    (∃ now : Instant, now.date = ⟨2026, 10, 31, by decide, by decide, by decide⟩ ∧
        now.second = 86399 ∧ now.nano = 500000000 ∧
        ∃ start stop, firedRule? .substring "trades this month".toList now =
            some (.thisMonth, .between start stop) ∧ start ≤ now ∧ ¬now ≤ stop) ∧
      ∃ now : Instant, now.date = ⟨2016, 12, 31, by decide, by decide, by decide⟩ ∧
        now.second = 86399 ∧ now.isLeap = true ∧
        ∃ start stop, firedRule? .substring "trades this quarter".toList now =
            some (.thisQuarter, .between start stop) ∧ start ≤ now ∧ ¬now ≤ stop := by
  refine ⟨⟨⟨⟨2026, 10, 31, by decide, by decide, by decide⟩, 86399, 500000000, by decide, by decide,
    by decide⟩, rfl, rfl, rfl, .startOf ⟨2026, 10, 1, by decide, by decide, by decide⟩,
    .endOf ⟨2026, 10, 31, by decide, by decide, by decide⟩, ?_⟩,
    ⟨⟨⟨2016, 12, 31, by decide, by decide, by decide⟩, 86399, 1000000000, by decide, by decide,
    by decide⟩, rfl, rfl, rfl, .startOf ⟨2016, 10, 1, by decide, by decide, by decide⟩,
    .endOf ⟨2016, 12, 31, by decide, by decide, by decide⟩, ?_⟩⟩
  · decide +kernel
  · decide +kernel

end ReportPlan
