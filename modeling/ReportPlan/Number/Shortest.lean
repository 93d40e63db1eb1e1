import ReportPlan.Number.Binary64
import ReportPlan.Number.Digits

/-! # Decimal text of binary numbers

A finite number is written with the fewest significant digits that read back as the same number,
and of the decimals with that many digits that read back, with the nearest.

* `Decimal`: an integer times a power of ten.
* `shortest`: the decimal just described. `Tie` says which of two equally near ones is taken.
* `Layout`: the choices of one written form: where positional notation ends, how the exponent and
  whole numbers are marked. `Layout.render` writes a number in it.
-/

set_option autoImplicit false

namespace ReportPlan

/-! ## Shortest decimals -/

/-- The decimal `coefficient` · 10^`exponent`. -/
structure Decimal where
  coefficient : Nat
  exponent : Int
  deriving DecidableEq, Repr

/-- Which of two equally near decimals is taken: the one whose last digit is even, or the larger. -/
inductive Tie where
  | toEven
  | up
  deriving DecidableEq, Repr

namespace Binary64

/-- The exponent of the leading decimal digit of a positive quotient. -/
def leadingExponent (num den : Nat) : Int :=
  if den ≤ num then ((digits (num / den)).length : Int) - 1
  else -((digits ((den - 1) / num)).length : Int)

/-- A quotient divided by 10^`exponent`, as a quotient. -/
def inUnits (num den : Nat) : Int → Nat × Nat
  | .ofNat e => (num, den * powerOfTen e)
  | .negSucc e => (num * powerOfTen (e + 1), den)

/-- Whether a decimal reads back as a magnitude. -/
def readsBack (x : Binary64) (d : Decimal) : Bool :=
  (ofDecimal x.negative d.coefficient d.exponent) == x

/-- The nearest of the two neighbours of a number among the multiples of 10^`exponent`, if one of
them reads back. -/
def neighbour? (tie : Tie) (x : Binary64) (exponent : Int) : Option Decimal :=
  let (num, den) := inUnits x.numerator x.denominator exponent
  let q := num / den
  let r := num % den
  let below : Decimal := ⟨q, exponent⟩
  let above : Decimal := ⟨q + 1, exponent⟩
  let belowFirst := 2 * r < den || (2 * r == den && tie == .toEven && q % 2 == 0)
  let order := if belowFirst then [below, above] else [above, below]
  order.find? (x.readsBack ·)

def mostDigits : Nat :=
  17

/-- The decimal with the fewest digits that reads back as a finite positive magnitude; the number
itself, exactly, if no short one does. -/
def shortest (tie : Tie) (x : Binary64) : Decimal :=
  let lead := leadingExponent x.numerator x.denominator
  let found := (List.range mostDigits).findSome? fun (n : Nat) => x.neighbour? tie (lead - n)
  found.getD
    ⟨x.numerator * Nat.pow 5 (leastPower - x.scale), -((leastPower - x.scale : Nat) : Int)⟩

end Binary64

/-- A coefficient without its trailing zeros, at most `fuel` of them, and how many they are. -/
def stripZeros (fuel n : Nat) : Nat × Nat :=
  match fuel with
  | 0 => (n, 0)
  | fuel + 1 =>
    if n ≠ 0 && n % 10 == 0 then
      let (m, zeros) := stripZeros fuel (n / 10)
      (m, zeros + 1)
    else (n, 0)

/-- The same decimal without trailing zeros in its coefficient. -/
def Decimal.strip (d : Decimal) : Decimal :=
  let (n, zeros) := stripZeros (digits d.coefficient).length d.coefficient
  ⟨n, d.exponent + zeros⟩

/-! ## Layouts -/

structure Layout where
  /-- Which of two equally near shortest decimals is written. -/
  tie : Tie
  /-- The exponents of the leading digit that are written positionally: from the first on, and
  below the second. Without bounds all are. -/
  positional : Option (Int × Int)
  /-- What follows a whole number in positional notation. -/
  wholeMark : List Char
  /-- What stands before a positive exponent. -/
  positiveMark : List Char
  /-- The texts of the two infinities. -/
  infinite : Bool → List Char

namespace Layout

/-- Positional notation of digits whose last one counts 10^`exponent`. -/
def positionalText (l : Layout) (ds : List Char) : Int → List Char
  | .ofNat e => ds ++ List.replicate e '0' ++ l.wholeMark
  | .negSucc e =>
    let places := e + 1
    if places < ds.length then
      ds.take (ds.length - places) ++ '.' :: ds.drop (ds.length - places)
    else '0' :: '.' :: (List.replicate (places - ds.length) '0' ++ ds)

/-- Scientific notation of digits, the first of which counts 10^`lead`. -/
def scientificText (l : Layout) (ds : List Char) (lead : Int) : List Char :=
  let fraction := if ds.length ≤ 1 then ds else ds.take 1 ++ '.' :: ds.drop 1
  let sign := if lead < 0 then ['-'] else l.positiveMark
  fraction ++ 'e' :: sign ++ digits lead.natAbs

def magnitudeText (l : Layout) (x : Binary64) : List Char :=
  if x.isZero then l.positionalText ['0'] 0
  else
    let d := (x.shortest l.tie).strip
    let ds := digits d.coefficient
    let lead := d.exponent + ds.length - 1
    let inside := match l.positional with
      | none => true
      | some (low, high) => decide (low ≤ lead ∧ lead < high)
    if inside then l.positionalText ds d.exponent else l.scientificText ds lead

def render (l : Layout) (x : Binary64) : List Char :=
  if x.isFinite then
    (if x.negative then ['-'] else []) ++ l.magnitudeText x
  else l.infinite x.negative

end Layout
end ReportPlan
