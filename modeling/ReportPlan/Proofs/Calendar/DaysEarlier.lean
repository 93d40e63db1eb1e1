import ReportPlan.Proofs.Calendar.DayOrder

/-! # Instants whole days earlier

Days are counted by a clock that runs on from a leap second into the second behind it. By that clock
the instant some days earlier is earlier by exactly these days, and it is found wherever the calendar
has it.

* `Instant.unixNanos`: the nanoseconds that this clock has counted since 1970.
* `Instant.IsDaysBefore`: one instant is whole days before another one.
* `Instant.minusDays?_eq_some_iff`: it is the instant that is found, and no other one.
* `Instant.IsDaysBefore.le_calendarDays`: no instants are more days apart than the calendar has.
-/

set_option autoImplicit false

namespace ReportPlan
namespace Instant

def dayNanos : Nat :=
  daySeconds * secondNanos

/-- The nanoseconds since 1 January 1970, when those of a leap second are counted on. -/
def unixNanos (i : Instant) : Int :=
  i.unixSeconds * secondNanos + i.nano

/-- One instant is a number of days before another one. No days before an instant is that instant
itself, also in a leap second; the clock shows no leap second otherwise. -/
def IsDaysBefore (start stop : Instant) (n : Nat) : Prop :=
  if n = 0 then start = stop
  else start.unixNanos + n * dayNanos = stop.unixNanos ∧ start.isLeap = false

/-! ## The instant that is found -/

theorem isLeap_eq_true_iff {i : Instant} : i.isLeap = true ↔ secondNanos ≤ i.nano :=
  decide_eq_true_iff

theorem isLeap_eq_false_iff {i : Instant} : i.isLeap = false ↔ i.nano < secondNanos := by
  rw [← Bool.not_eq_true, isLeap_eq_true_iff, Nat.not_le]

theorem minusDays?_eq_some_iff {start stop : Instant} {n : Nat} :
    stop.minusDays? n = some start ↔ start.IsDaysBefore stop n := by
  by_cases hn : n = 0
  · rw [hn, minusDays?_zero, Option.some.injEq, IsDaysBefore, if_pos rfl]
    exact eq_comm
  have hnano : stop.nano < 2000000000 := stop.nano_lt
  rw [minusDays?, if_neg hn, IsDaysBefore, if_neg hn]
  split
  · rename_i hleap
    rw [isLeap_eq_true_iff] at hleap
    rw [ofUnix?_eq_some_iff, isLeap_eq_false_iff]
    simp only [unixNanos, dayNanos, daySeconds, secondNanos] at hleap ⊢
    omega
  · rename_i hleap
    have hstart : start.second < 86400 := start.second_lt
    have hstop : stop.second < 86400 := stop.second_lt
    rw [isLeap_eq_true_iff] at hleap
    rw [isLeap_eq_false_iff]
    simp only [Option.bind_eq_some_iff, Date.ofNumber?_eq_some_iff, of?_eq_some_iff]
    simp only [unixNanos, unixSeconds, dayNanos, daySeconds, secondNanos] at hleap ⊢
    constructor
    · rintro ⟨_, hdate, rfl, hsecond, hnanos⟩
      omega
    · rintro ⟨hnanos, hstartLeap⟩
      exact ⟨start.date, by omega, rfl, by omega, by omega⟩

/-! ## Days of the calendar -/

/-- The number of days from the first to the last one of the calendar. -/
def calendarDays : Nat :=
  (daysBeforeYear (lastYear + 1) - daysBeforeYear firstYear).toNat

theorem IsDaysBefore.le_calendarDays {start stop : Instant} {n : Nat}
    (h : start.IsDaysBefore stop n) : n ≤ calendarDays := by
  by_cases hn : n = 0
  · rw [hn]
    exact Nat.zero_le _
  have hseconds := unixSeconds_of_minusDays? hn (minusDays?_eq_some_iff.2 h)
  have hstop : stop.second < 86400 := stop.second_lt
  have hfirst := daysBeforeYear_mono start.date.year_mem.1
  have hlast : daysBeforeYear (stop.date.year + 1) ≤ daysBeforeYear (lastYear + 1) :=
    daysBeforeYear_mono (Int.add_le_add_right stop.date.year_mem.2 1)
  have hstartBounds := start.date.number_bounds
  have hstopBounds := stop.date.number_bounds
  rw [calendarDays]
  simp only [unixSeconds, daySeconds] at hseconds
  split at hseconds <;> omega

end Instant
end ReportPlan
