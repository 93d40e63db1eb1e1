import ReportPlan.Number.Digits
import ReportPlan.Number.Power
import ReportPlan.Proofs.Text.Runs

/-! # Decimal digits read back

* `AllDigits`: a text of plain digits only.
* `NoDigitAhead`: a text that does not begin with a plain digit, so that a run of digits ends there.
* `decimalValue`: the number that plain digits write; `readNat_eq`: it is the one that is read.
* `readNat_padded`: the digits of a number give that number, also with zeros before them.
* `length_padded`: a number that fits a width is padded to exactly that width.
-/

set_option autoImplicit false

namespace ReportPlan

open Text (isPlainDigit plainDigit?)

/-! ## Runs of digits -/

/-- Whether a text consists of plain digits. -/
def AllDigits (s : List Char) : Prop :=
  ∀ c ∈ s, isPlainDigit c = true

/-- Whether a text does not begin with a plain digit. -/
def NoDigitAhead (s : List Char) : Prop :=
  ∀ c ∈ s.head?, isPlainDigit c = false

theorem noDigitAhead_cons {c : Char} {s : List Char} (h : isPlainDigit c = false) :
    NoDigitAhead (c :: s) := by
  intro d hd
  cases hd
  exact h

theorem AllDigits.head {c : Char} {s : List Char} (h : AllDigits (c :: s)) :
    isPlainDigit c = true :=
  h c List.mem_cons_self

theorem AllDigits.tail {c : Char} {s : List Char} (h : AllDigits (c :: s)) : AllDigits s :=
  fun d hd => h d (List.mem_cons_of_mem _ hd)

theorem isPlainDigit_iff_isDigit {c : Char} : isPlainDigit c = true ↔ c.isDigit = true := by
  simp [isPlainDigit, Char.isDigit, Char.le_def]

/-- The plain digits have the code points 48 to 57. -/
theorem toNat_of_isPlainDigit {c : Char} (h : isPlainDigit c = true) :
    48 ≤ c.toNat ∧ c.toNat ≤ 57 := by
  simp only [isPlainDigit, Bool.and_eq_true, decide_eq_true_eq, Char.le_def,
    UInt32.le_iff_toNat_le] at h
  exact h

theorem isDigit_of_isPlainDigit {c : Char} (h : isPlainDigit c = true) : Text.isDigit c = true := by
  have hcode := toNat_of_isPlainDigit h
  have hall : ∀ n < 58, 48 ≤ n → Text.isDigit (Char.ofNat n) = true := by decide +kernel
  have hdigit := hall c.toNat (by omega) hcode.1
  rwa [Char.ofNat_toNat] at hdigit

theorem isBlank_of_isPlainDigit {c : Char} (h : isPlainDigit c = true) :
    Text.isBlank c = false :=
  Text.isBlank_of_isDigit (isDigit_of_isPlainDigit h)

theorem AllDigits.isDigit {s : List Char} (h : AllDigits s) : ∀ c ∈ s, Text.isDigit c = true :=
  fun c hc => isDigit_of_isPlainDigit (h c hc)

theorem isPlainDigit_digitChar {d : Nat} (h : d < 10) : isPlainDigit d.digitChar = true := by
  rw [isPlainDigit_iff_isDigit, Nat.isDigit_digitChar]
  exact decide_eq_true h

theorem plainDigit?_digitChar {d : Nat} (h : d < 10) : plainDigit? d.digitChar = some d := by
  rw [plainDigit?, if_pos (isPlainDigit_digitChar h)]
  exact congrArg some (Nat.toNat_digitChar_sub_48_of_lt_ten h)

theorem plainDigit?_eq_none {c : Char} (h : isPlainDigit c = false) : plainDigit? c = none := by
  rw [plainDigit?, h]
  rfl

/-! ## Values -/

/-- The number that digits write, by their places. -/
def decimalValue : List Char → Nat
  | [] => 0
  | c :: rest => (c.toNat - '0'.toNat) * powerOfTen rest.length + decimalValue rest

theorem digitsAfter_eq (n : Nat) {s : List Char} (hs : AllDigits s) :
    digitsAfter n s = some (n * powerOfTen s.length + decimalValue s) := by
  induction s generalizing n with
  | nil => simp [digitsAfter, decimalValue, powerOfTen]
  | cons c s ih =>
    have hc : plainDigit? c = some (c.toNat - '0'.toNat) := if_pos hs.head
    simp only [digitsAfter, hc, ih _ hs.tail, decimalValue]
    rw [List.length_cons, powerOfTen_succ, Nat.add_mul, ← Nat.add_assoc, Nat.mul_comm 10 n,
      Nat.mul_assoc, Nat.mul_comm 10]

theorem ne_of_isPlainDigit {c e : Char} (hc : isPlainDigit c = true) (he : isPlainDigit e = false) :
    c ≠ e := by
  rintro rfl
  rw [hc] at he
  cases he

theorem readNat_eq {s : List Char} (hs : AllDigits s) (hne : s ≠ []) :
    readNat s = some (decimalValue s) := by
  rw [readNat, if_neg (by simpa using hne), digitsAfter_eq 0 hs, Nat.zero_mul, Nat.zero_add]

/-! ## Digits -/

theorem digits_ne_nil (n : Nat) : digits n ≠ [] :=
  Nat.toDigits_ne_nil

theorem digits_of_lt {n : Nat} (h : n < 10) : digits n = [n.digitChar] :=
  Nat.toDigits_of_lt_base h

theorem digits_of_le {n : Nat} (h : 10 ≤ n) :
    digits n = digits (n / 10) ++ [(n % 10).digitChar] :=
  Nat.toDigits_of_base_le (by decide) h

theorem allDigits_digits (n : Nat) : AllDigits (digits n) := by
  intro c hc
  rw [isPlainDigit_iff_isDigit]
  exact Nat.isDigit_of_mem_toDigits (by decide) (by decide) hc

theorem length_digits_le {width n : Nat} (hwidth : 0 < width) (h : n < powerOfTen width) :
    (digits n).length ≤ width :=
  (Nat.length_toDigits_le_iff (by decide) hwidth).2 h

/-- The digits of a positive number do not begin with a zero. -/
theorem head_digits_ne_zero {n : Nat} (h : 0 < n) : (digits n).head? ≠ some '0' := by
  induction n using Nat.strongRecOn with
  | ind n ih =>
    by_cases hlt : n < 10
    · rw [digits_of_lt hlt]
      simp only [List.head?_cons, ne_eq, Option.some.injEq, Nat.digitChar_eq_zero]
      omega
    · obtain ⟨c, rest, hfirst⟩ := List.exists_cons_of_ne_nil (digits_ne_nil (n / 10))
      have hne := ih (n / 10) (by omega) (by omega)
      rw [hfirst] at hne
      rw [digits_of_le (by omega), hfirst]
      exact hne

theorem digitsAfter_digits (n : Nat) : digitsAfter 0 (digits n) = some n := by
  induction n using Nat.strongRecOn with
  | ind n ih =>
    by_cases hlt : n < 10
    · rw [digits_of_lt hlt]
      simp [digitsAfter, plainDigit?_digitChar hlt]
    · have hdigit : n % 10 < 10 := by omega
      have hsum : 10 * (n / 10) + n % 10 = n := by omega
      rw [digits_of_le (by omega), digitsAfter_append, ih (n / 10) (by omega)]
      simp [digitsAfter, plainDigit?_digitChar hdigit, hsum]

/-! ## Padded digits -/

theorem padded_ne_nil (width n : Nat) : padded width n ≠ [] := by
  rw [padded]
  exact List.append_ne_nil_of_right_ne_nil _ (digits_ne_nil n)

theorem allDigits_padded (width n : Nat) : AllDigits (padded width n) := by
  intro c hc
  rw [padded, List.mem_append] at hc
  rcases hc with hc | hc
  · rw [List.eq_of_mem_replicate hc]
    decide
  · exact allDigits_digits n c hc

theorem length_padded {width n : Nat} (hwidth : 0 < width) (h : n < powerOfTen width) :
    (padded width n).length = width := by
  have hle := length_digits_le hwidth h
  rw [padded, List.length_append, List.length_replicate]
  omega

theorem digitsAfter_zeros (zeros : Nat) : digitsAfter 0 (List.replicate zeros '0') = some 0 := by
  induction zeros with
  | zero => rfl
  | succ zeros ih => exact ih

theorem readNat_padded (width n : Nat) : readNat (padded width n) = some n := by
  rw [readNat, if_neg (by simp [padded_ne_nil]), padded, digitsAfter_append, digitsAfter_zeros]
  exact digitsAfter_digits n

end ReportPlan
