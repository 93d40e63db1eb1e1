import ReportPlan.Calendar.Date

/-! # Instants

* `Instant`: a date, a second of the day and nanoseconds, in universal time. A leap second is the
  last second of a minute with at least 10⁹ nanoseconds. A time of the day that is put together
  from its parts could have as many in any second; no timestamp and no clock gives such a time, and
  it is left out.
* `Instant.ofUnix?`: the instant with given seconds and nanoseconds since 1970.
* `Instant.ofLocal?`: the instant of a clock that is ahead of universal time.
* `Instant.minusDays?`: the instant a number of days earlier.
* `Instant.startOf`, `Instant.endOf`: the first and the last whole second of a day.
* the order of instants: by second, then by nanosecond.
-/

set_option autoImplicit false

namespace ReportPlan

def daySeconds : Nat :=
  86400

def secondNanos : Nat :=
  1000000000

/-- A point of time, in universal time. -/
structure Instant where
  date : Date
  second : Nat
  nano : Nat
  second_lt : second < daySeconds
  nano_lt : nano < 2 * secondNanos
  leap_mem : secondNanos ≤ nano → second % 60 = 59
  deriving DecidableEq, Repr

namespace Instant

/-- Whether an instant lies in a leap second. -/
def isLeap (i : Instant) : Bool :=
  secondNanos ≤ i.nano

/-- The instant with given parts, if they are in range. -/
def of? (date : Date) (second nano : Nat) : Option Instant :=
  if h : second < daySeconds ∧ nano < 2 * secondNanos ∧ (secondNanos ≤ nano → second % 60 = 59) then
    some ⟨date, second, nano, h.1, h.2.1, h.2.2⟩
  else none

/-- The whole seconds since 1 January 1970; a leap second counts as the second before it. -/
def unixSeconds (i : Instant) : Int :=
  i.date.number * daySeconds + i.second

/-- The instant with given seconds and nanoseconds since 1 January 1970. -/
def ofUnix? (seconds : Int) (nano : Nat) : Option Instant :=
  (Date.ofNumber? (seconds / daySeconds)).bind fun date =>
    of? date (seconds % daySeconds).toNat nano

/-- The instant at which a clock `offset` seconds ahead of universal time shows the given date and
second. -/
def ofLocal? (date : Date) (second nano : Nat) (offset : Int) : Option Instant :=
  let total := (second : Int) - offset
  (Date.ofNumber? (date.number + total / daySeconds)).bind fun date =>
    of? date (total % daySeconds).toNat nano

/-- The instant `n` days earlier. A leap second counts as the first second of the next minute once
the clock moves off it. -/
def minusDays? (i : Instant) (n : Nat) : Option Instant :=
  if n = 0 then some i
  else if i.isLeap then
    ofUnix? (i.unixSeconds + 1 - n * daySeconds) (i.nano - secondNanos)
  else
    (Date.ofNumber? (i.date.number - n)).bind fun date => of? date i.second i.nano

def startOf (date : Date) : Instant :=
  ⟨date, 0, 0, by decide, by decide, by decide⟩

def endOf (date : Date) : Instant :=
  ⟨date, 86399, 0, by decide, by decide, by decide⟩

/-- Instants are ordered by second and then by nanosecond, so that a leap second lies between its
neighbours. -/
instance : LE Instant where
  le a b := a.unixSeconds < b.unixSeconds ∨ (a.unixSeconds = b.unixSeconds ∧ a.nano ≤ b.nano)

theorem le_iff {a b : Instant} :
    a ≤ b ↔ a.unixSeconds < b.unixSeconds ∨ (a.unixSeconds = b.unixSeconds ∧ a.nano ≤ b.nano) :=
  Iff.rfl

instance (a b : Instant) : Decidable (a ≤ b) :=
  decidable_of_iff _ le_iff.symm

theorem le_refl (a : Instant) : a ≤ a :=
  Or.inr ⟨rfl, Nat.le_refl _⟩

theorem le_trans {a b c : Instant} (hab : a ≤ b) (hbc : b ≤ c) : a ≤ c := by
  rw [le_iff] at *
  omega

theorem startOf_le_endOf (date : Date) : startOf date ≤ endOf date := by
  simp only [le_iff, unixSeconds, startOf, endOf]
  omega

@[simp] theorem minusDays?_zero (i : Instant) : i.minusDays? 0 = some i := by
  simp [minusDays?]

end Instant
end ReportPlan
