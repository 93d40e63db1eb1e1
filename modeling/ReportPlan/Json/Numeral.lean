import ReportPlan.Number.Shortest

/-! # Numbers of JSON

* `Numeral`: an integer of 64 bits, or a binary floating-point number.
* `Numeral.text`: integers in digits; other numbers with the fewest digits that read back, always
  with a fraction or an exponent.
* `Numeral.read?`: reads a number off the front of a text. A number without fraction and exponent
  is an integer if 64 bits hold it. Otherwise its leading digits, as many as 64 bits hold, are
  rounded, and the result is multiplied or divided by a power of ten and rounded again.
-/

set_option autoImplicit false

namespace ReportPlan.Json

/-! ## Numbers and their text -/

inductive Numeral where
  | integer (n : Int)
  | floating (x : Binary64)
  deriving DecidableEq, Repr

def Numeral.value : Numeral → Binary64
  | integer n => Binary64.ofInt n
  | floating x => x

/-- The written form of floating-point numbers: positional from 10⁻⁵ on and below 10¹⁶, whole
numbers with `.0`, positive exponents with a sign. Infinity has no number in JSON. -/
def floatingLayout : Layout where
  tie := .toEven
  positional := some (-5, 16)
  wholeMark := ['.', '0']
  positiveMark := ['+']
  infinite := fun _ => ['n', 'u', 'l', 'l']

def integerText (n : Int) : List Char :=
  if n < 0 then '-' :: digits n.natAbs else digits n.natAbs

def Numeral.text : Numeral → List Char
  | integer n => integerText n
  | floating x => floatingLayout.render x

/-! ## Reading -/

def greatestSignificand : Nat :=
  powerOfTwo 64 - 1

/-- Appends digits to a significand as long as it can be kept: the significand, the number of
digits taken, and the rest. -/
def takeSignificand (n : Nat) : List Char → Nat × Nat × List Char
  | [] => (n, 0, [])
  | c :: rest =>
    match Text.plainDigit? c with
    | none => (n, 0, c :: rest)
    | some d =>
      if 10 * n + d ≤ greatestSignificand then
        let (m, taken, left) := takeSignificand (10 * n + d) rest
        (m, taken + 1, left)
      else (n, 0, c :: rest)

/-- Divides by a power of ten, at most by 10³⁰⁸ at a time. -/
def divideByTens (x : Binary64) (tens : Nat) : Binary64 :=
  if tens ≤ 308 then x.div (Binary64.ofDecimal false 1 tens)
  else if x.isZero then x
  else divideByTens (x.div (Binary64.ofDecimal false 1 308)) (tens - 308)
termination_by tens

/-- A rounded significand times a power of ten, rounded; none if it is too large. -/
def scaled? (negative : Bool) (significand : Nat) : Int → Option Binary64
  | .ofNat tens =>
    let x := Binary64.ofNat negative significand
    if x.isZero then some x
    else if 308 < tens then none
    else
      let y := x.mul (Binary64.ofDecimal false 1 tens)
      if y.isFinite then some y else none
  | .negSucc tens => some (divideByTens (Binary64.ofNat negative significand) (tens + 1))

/-- The exponent part of a number, if there is one: its value and the rest. -/
def exponentPart? : List Char → Option (Option Int × List Char)
  | [] => some (none, [])
  | c :: rest =>
    if c = 'e' || c = 'E' then
      let (negative, rest) := match rest with
        | '+' :: rest => (false, rest)
        | '-' :: rest => (true, rest)
        | rest => (false, rest)
      let run := rest.takeWhile Text.isPlainDigit
      (readNat run).map fun n =>
        (some (if negative then -(n : Int) else n), rest.drop run.length)
    else some (none, c :: rest)

/-- The fraction of a number, if there is one: the significand with the fraction's digits, the
number of those digits, and the rest. -/
def fractionPart? (significand : Nat) : List Char → Option (Nat × Option Nat × List Char)
  | '.' :: rest =>
    match rest with
    | [] => none
    | c :: _ =>
      if Text.isPlainDigit c then
        let (m, taken, left) := takeSignificand significand rest
        some (m, some taken, left.dropWhile Text.isPlainDigit)
      else none
  | s => some (significand, none, s)

/-- The number of an integer part without fraction and exponent, if 64 bits hold it. Minus zero is
not an integer. -/
def wholeNumeral (negative : Bool) (n : Nat) : Numeral :=
  if negative then
    if 0 < n ∧ n ≤ powerOfTwo 63 then .integer (-(n : Int)) else .floating (Binary64.ofNat true n)
  else .integer n

/-- Reads the digits of a number. An integer part of several digits does not start with zero. -/
def readMagnitude? (negative : Bool) (s : List Char) : Option (Numeral × List Char) := do
  let (whole, _, s) ← match s with
    | '0' :: rest => if (rest.head?.any Text.isPlainDigit) then none else some (0, 1, rest)
    | c :: rest =>
      if Text.isPlainDigit c then some (takeSignificand 0 (c :: rest)) else none
    | [] => none
  let beyond := (s.takeWhile Text.isPlainDigit).length
  let (significand, places, s) ← fractionPart? whole (s.drop beyond)
  let (exponent, s) ← exponentPart? s
  if beyond = 0 ∧ places = none ∧ exponent = none then
    some (wholeNumeral negative whole, s)
  else
    let x ← scaled? negative significand ((beyond : Int) - places.getD 0 + exponent.getD 0)
    some (.floating x, s)

def Numeral.read? : List Char → Option (Numeral × List Char)
  | '-' :: rest => readMagnitude? true rest
  | s => readMagnitude? false s

end ReportPlan.Json
