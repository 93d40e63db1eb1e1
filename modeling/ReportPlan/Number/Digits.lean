import ReportPlan.Text.Digit

/-! # Natural numbers in decimal digits

* `readNat`: the number written by a non-empty run of the digits `0` to `9`; digits of other
  scripts give none.
* `digits`: the decimal digits of a number, without leading zeros.
* `padded`: the same with zeros in front up to a least width.
-/

set_option autoImplicit false

namespace ReportPlan

/-- The number that digits give after a first part of value `n`. -/
def digitsAfter : Nat → List Char → Option Nat
  | n, [] => some n
  | n, c :: rest =>
    match Text.plainDigit? c with
    | some d => digitsAfter (10 * n + d) rest
    | none => none

/-- The number written by a non-empty run of plain digits. -/
def readNat (s : List Char) : Option Nat :=
  if s.isEmpty then none else digitsAfter 0 s

/-- The decimal digits of a number; zero has one. -/
def digits (n : Nat) : List Char :=
  Nat.toDigits 10 n

/-- The decimal digits of a number with zeros in front, at least `width` characters in all. -/
def padded (width n : Nat) : List Char :=
  List.replicate (width - (digits n).length) '0' ++ digits n

theorem digitsAfter_append (n : Nat) (s t : List Char) :
    digitsAfter n (s ++ t) = (digitsAfter n s).bind (digitsAfter · t) := by
  induction s generalizing n with
  | nil => rfl
  | cons c s ih =>
    simp only [List.cons_append, digitsAfter]
    cases Text.plainDigit? c with
    | none => rfl
    | some d => exact ih _

end ReportPlan
