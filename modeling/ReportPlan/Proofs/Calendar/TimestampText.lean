import ReportPlan.Calendar.Timestamp
import ReportPlan.Proofs.Calendar.DayNumber
import ReportPlan.Proofs.Lists
import ReportPlan.Proofs.Number.Decimal

/-! # Timestamps read back

Every part of a timestamp is taken off the front of the text that it begins with, and the parts
give the instant again: also years with a sign, fractions of any width and leap seconds.

* `Timestamp.digitRun_append`: a run of digits ends where its width or its digits end.
* `Timestamp.lenientYear?_yearText`, `Timestamp.lenientPart?_padded`,
  `Timestamp.fraction?_fractionText`: the parts.
* `Timestamp.assemble?_parts`: the parts joined.
* `Timestamp.readLenient?_text`: the whole.
-/

set_option autoImplicit false

namespace ReportPlan.Timestamp

open Text (isPlainDigit isBlank)

/-! ## Runs of digits -/

theorem digitRun_append {most : Nat} {run rest : List Char} (hrun : AllDigits run)
    (hle : run.length ≤ most) (hend : run.length = most ∨ NoDigitAhead rest) :
    digitRun most (run ++ rest) = (run, rest) := by
  induction run generalizing most with
  | nil =>
    cases most with
    | zero => rfl
    | succ most =>
      have hrest : NoDigitAhead rest := hend.resolve_left (by simp)
      cases rest with
      | nil => rfl
      | cons c rest => simp [digitRun, hrest c rfl]
  | cons c run ih =>
    cases most with
    | zero => simp at hle
    | succ most =>
      rw [List.length_cons] at hle hend
      have hstep : digitRun most (run ++ rest) = (run, rest) :=
        ih hrun.tail (by omega) (hend.imp_left (by omega))
      simp [digitRun, hrun.head, hstep]

theorem upTo?_append {most n : Nat} {run rest : List Char} (hrun : AllDigits run)
    (hle : run.length ≤ most) (hend : run.length = most ∨ NoDigitAhead rest)
    (hread : readNat run = some n) : upTo? most (run ++ rest) = some (n, rest) := by
  simp [upTo?, digitRun_append hrun hle hend, hread]

/-! ## Blanks -/

theorem skipBlanks_cons {c : Char} {s : List Char} (h : isBlank c = false) :
    skipBlanks (c :: s) = c :: s := by
  simp [skipBlanks, h]

/-- No blanks are skipped before digits. -/
theorem skipBlanks_digits {run rest : List Char} (hrun : AllDigits run) (hne : run ≠ []) :
    skipBlanks (run ++ rest) = run ++ rest := by
  obtain ⟨c, run, rfl⟩ := List.exists_cons_of_ne_nil hne
  exact skipBlanks_cons (isBlank_of_isPlainDigit hrun.head)

/-! ## Parts -/

theorem lenientMark?_cons {c : Char} {s : List Char} (h : isBlank c = false) :
    lenientMark? c (c :: s) = some s := by
  simp [lenientMark?, skipBlanks_cons h, expect?]

theorem separator?_mark (s : List Char) : separator? ('T' :: s) = some s := rfl

theorem lenientPart?_padded {n : Nat} (h : n < 100) (rest : List Char) :
    lenientPart? (padded 2 n ++ rest) = some (n, rest) := by
  have hlength : (padded 2 n).length = 2 := length_padded (by decide) h
  rw [lenientPart?, skipBlanks_digits (allDigits_padded 2 n) (padded_ne_nil 2 n)]
  exact upTo?_append (allDigits_padded 2 n) (Nat.le_of_eq hlength) (.inl hlength)
    (readNat_padded 2 n)

/-- A year that begins with a digit has no sign, and at most four digits. -/
theorem lenientYear?_digits {run rest : List Char} (hrun : AllDigits run) (hne : run ≠ []) :
    lenientYear? (run ++ rest) = (upTo? 4 (run ++ rest)).map fun (n, rest) => ((n : Int), rest) := by
  rw [lenientYear?, skipBlanks_digits hrun hne]
  obtain ⟨c, run, rfl⟩ := List.exists_cons_of_ne_nil hne
  have hc := hrun.head
  split
  · rename_i heq
    rw [(List.cons.inj heq).1] at hc
    cases hc
  · rename_i heq
    rw [(List.cons.inj heq).1] at hc
    cases hc
  · rfl

/-- The digits of a year end at the hyphen behind them. -/
theorem upTo?_year {most n : Nat} (rest : List Char) (h : (padded 4 n).length ≤ most) :
    upTo? most (padded 4 n ++ '-' :: rest) = some (n, '-' :: rest) :=
  upTo?_append (allDigits_padded 4 n) h (.inr (noDigitAhead_cons (by decide)))
    (readNat_padded 4 n)

theorem lenientYear?_yearText (year : Int) (rest : List Char) :
    lenientYear? (yearText year ++ '-' :: rest) = some (year, '-' :: rest) := by
  have hsigned : upTo? (padded 4 year.natAbs ++ '-' :: rest).length
      (padded 4 year.natAbs ++ '-' :: rest) = some (year.natAbs, '-' :: rest) := by
    refine upTo?_year rest ?_
    rw [List.length_append]
    omega
  unfold yearText
  split
  · have hlength : (padded 4 year.natAbs).length = 4 :=
      length_padded (by decide) (show year.natAbs < 10000 by omega)
    have hcast : (year.natAbs : Int) = year := by omega
    rw [lenientYear?_digits (allDigits_padded 4 _) (padded_ne_nil 4 _),
      upTo?_year rest (Nat.le_of_eq hlength)]
    simp only [Option.map_some, hcast]
  · split
    · have hcast : -(year.natAbs : Int) = year := by omega
      rw [lenientYear?, List.cons_append, skipBlanks_cons (by decide)]
      simp only [hsigned, Option.map_some, hcast]
    · have hcast : (year.natAbs : Int) = year := by omega
      rw [lenientYear?, List.cons_append, skipBlanks_cons (by decide)]
      simp only [hsigned, Option.map_some, hcast]

theorem fraction?_padded {width n : Nat} (hwidth : 0 < width ∧ width ≤ 9)
    (h : n < powerOfTen width) (rest : List Char) :
    fraction? ('.' :: (padded width n ++ 'Z' :: rest)) =
      some (n * powerOfTen (9 - width), 'Z' :: rest) := by
  have hlength : (padded width n).length = width := length_padded hwidth.1 h
  have hrun : digitRun 9 (padded width n ++ 'Z' :: rest) = (padded width n, 'Z' :: rest) :=
    digitRun_append (allDigits_padded width n) (by omega) (.inr (noDigitAhead_cons (by decide)))
  have hmark : isPlainDigit 'Z' = false := by decide
  simp [fraction?, hrun, readNat_padded, hlength, hmark]

theorem fraction?_fractionText {nano : Nat} (h : nano < secondNanos) (rest : List Char) :
    fraction? (fractionText nano ++ 'Z' :: rest) = some (nano, 'Z' :: rest) := by
  have hnano : nano < 1000000000 := h
  unfold fractionText
  split
  · rename_i hzero
    rw [hzero]
    rfl
  · split
    · have hmul : nano / 1000000 * powerOfTen (9 - 3) = nano := by
        show nano / 1000000 * 1000000 = nano
        omega
      rw [List.cons_append, fraction?_padded (by decide) (show nano / 1000000 < 1000 by omega), hmul]
    · split
      · have hmul : nano / 1000 * powerOfTen (9 - 6) = nano := by
          show nano / 1000 * 1000 = nano
          omega
        rw [List.cons_append, fraction?_padded (by decide) (show nano / 1000 < 1000000 by omega),
          hmul]
      · have hmul : nano * powerOfTen (9 - 9) = nano := Nat.mul_one nano
        rw [List.cons_append, fraction?_padded (by decide) h, hmul]

/-! ## The whole -/

theorem ofLocal?_zero (i : Instant) : Instant.ofLocal? i.date i.second i.nano 0 = some i := by
  have hsecond : i.second < 86400 := i.second_lt
  have hday : ((i.second : Int) - 0) / daySeconds = 0 := by
    rw [daySeconds]
    omega
  have hrest : (((i.second : Int) - 0) % daySeconds).toNat = i.second := by
    rw [daySeconds]
    omega
  simp only [Instant.ofLocal?, hday, hrest, Int.add_zero, Date.ofNumber?_number, Option.bind_some]
  rw [Instant.of?, dif_pos ⟨i.second_lt, i.nano_lt, i.leap_mem⟩]

/-- The written parts of an instant give it again; a leap second is written as second 60. -/
theorem assemble?_parts (i : Instant) :
    assemble? i.date.year i.date.month i.date.day (i.second / 3600) (i.second / 60 % 60)
      (i.second % 60 + i.nano / secondNanos) (i.nano % secondNanos) 0 = some i := by
  have hdate : Date.of? i.date.year i.date.month i.date.day = some i.date :=
    Date.of?_eq_some_iff.2 ⟨rfl, rfl, rfl⟩
  have hsecond : i.second < 86400 := i.second_lt
  have hnano : i.nano < 2 * secondNanos := i.nano_lt
  have hleap := i.leap_mem
  rw [secondNanos] at hnano hleap
  have hrange : i.second / 3600 ≤ 23 ∧ i.second / 60 % 60 ≤ 59 ∧
      i.second % 60 + i.nano / secondNanos ≤ 60 := by
    rw [secondNanos]
    omega
  have hparts : (if i.second % 60 + i.nano / secondNanos = 60 then
      (59, i.nano % secondNanos + secondNanos)
      else (i.second % 60 + i.nano / secondNanos, i.nano % secondNanos)) =
        (i.second % 60, i.nano) := by
    rw [secondNanos]
    split <;> rw [Prod.mk.injEq] <;> omega
  have hclock : i.second / 3600 * 3600 + i.second / 60 % 60 * 60 + i.second % 60 = i.second := by
    omega
  unfold assemble?
  refine Option.bind_eq_some_iff.2 ⟨_, hdate, ?_⟩
  refine Option.bind_eq_some_iff.2 ⟨_, guard_eq_some hrange, ?_⟩
  rw [hparts]
  show Instant.ofLocal? i.date
    (i.second / 3600 * 3600 + i.second / 60 % 60 * 60 + i.second % 60) i.nano 0 = some i
  rw [hclock]
  exact ofLocal?_zero i

/-- A timestamp that is written is read as the same instant. -/
theorem readLenient?_text (i : Instant) : readLenient? i.text = some i := by
  have hsecond : i.second < 86400 := i.second_lt
  have hnano : i.nano < 2 * secondNanos := i.nano_lt
  have hleap := i.leap_mem
  rw [secondNanos] at hnano hleap
  have hmonth : i.date.month < 100 := by
    have := i.date.month_mem
    omega
  have hday : i.date.day < 100 := by
    have := daysInMonth_le i.date.year i.date.month
    have := i.date.day_mem
    omega
  have hhour : i.second / 3600 < 100 := by omega
  have hminute : i.second / 60 % 60 < 100 := by omega
  have hsecondText : i.second % 60 + i.nano / secondNanos < 100 := by
    rw [secondNanos]
    omega
  have hfraction : i.nano % secondNanos < secondNanos := Nat.mod_lt _ (by decide)
  have hoffset : lenientOffset? (skipBlanks ['Z']) = some (0, []) := by decide
  rw [Instant.text, Date.text]
  simp only [List.append_assoc, List.cons_append]
  unfold readLenient?
  refine Option.bind_eq_some_iff.2 ⟨_, lenientYear?_yearText _ _, ?_⟩
  refine Option.bind_eq_some_iff.2 ⟨_, lenientMark?_cons (by decide), ?_⟩
  refine Option.bind_eq_some_iff.2 ⟨_, lenientPart?_padded hmonth _, ?_⟩
  refine Option.bind_eq_some_iff.2 ⟨_, lenientMark?_cons (by decide), ?_⟩
  refine Option.bind_eq_some_iff.2 ⟨_, lenientPart?_padded hday _, ?_⟩
  refine Option.bind_eq_some_iff.2 ⟨_, separator?_mark _, ?_⟩
  refine Option.bind_eq_some_iff.2 ⟨_, lenientPart?_padded hhour _, ?_⟩
  refine Option.bind_eq_some_iff.2 ⟨_, lenientMark?_cons (by decide), ?_⟩
  refine Option.bind_eq_some_iff.2 ⟨_, lenientPart?_padded hminute _, ?_⟩
  refine Option.bind_eq_some_iff.2 ⟨_, lenientMark?_cons (by decide), ?_⟩
  refine Option.bind_eq_some_iff.2 ⟨_, lenientPart?_padded hsecondText _, ?_⟩
  refine Option.bind_eq_some_iff.2 ⟨_, fraction?_fractionText hfraction _, ?_⟩
  refine Option.bind_eq_some_iff.2 ⟨_, hoffset, ?_⟩
  exact assemble?_parts i

end ReportPlan.Timestamp
