import ReportPlan.Number.Power

/-! # Binary floating-point numbers of 64 bits

The non-negative numbers of the format, infinity included, are counted in ascending order: the
*rank* of a number is its place in that order, so zero has rank 0 and the least positive number
rank 1. Every sign and every rank up to that of infinity is one number, and nothing else is; there
is no value that is not a number.

* `Binary64`: a sign and a rank.
* `numerator`, `denominator`: the magnitude of a finite number as a quotient.
* `ofRatio`: the number nearest to a quotient; of two equally near ones, the one with an even
  significand. Beyond the largest finite number lies infinity.
* `ofNat`, `ofDecimal`: the number nearest to an integer and to a decimal.
* `mul`, `div`: product and quotient, rounded once.
-/

set_option autoImplicit false

namespace ReportPlan

def binadeSize : Nat :=
  powerOfTwo 52

/-- The rank of infinity: 2047 binades of 2⁵² numbers precede it. -/
def infinityRank : Nat :=
  2047 * binadeSize

/-- A number of the format: its sign, and its place among the magnitudes. Zero has both signs. -/
structure Binary64 where
  negative : Bool
  rank : Nat
  rank_le : rank ≤ infinityRank
  deriving DecidableEq, Repr

namespace Binary64

/-! ## Magnitudes -/

def isFinite (x : Binary64) : Bool :=
  x.rank < infinityRank

/-- Whether a number is one of the two zeros. -/
def isZero (x : Binary64) : Bool :=
  x.rank == 0

/-- The significand of a finite number, an integer below 2⁵³. -/
def significand (x : Binary64) : Nat :=
  if x.rank < binadeSize then x.rank else binadeSize + x.rank % binadeSize

/-- The power of two by which the significand is multiplied, counted from the least one. -/
def scale (x : Binary64) : Nat :=
  x.rank / binadeSize - 1

/-- The least power of two is 2⁻¹⁰⁷⁴. -/
def leastPower : Nat :=
  1074

def numerator (x : Binary64) : Nat :=
  x.significand * powerOfTwo (x.scale - leastPower)

def denominator (x : Binary64) : Nat :=
  powerOfTwo (leastPower - x.scale)

theorem denominator_pos (x : Binary64) : 0 < x.denominator :=
  powerOfTwo_pos _

/-! ## Rounding -/

/-- The integer nearest to a quotient, the even one of two equally near. -/
def roundQuotient (num den : Nat) : Nat :=
  let q := num / den
  let r := num % den
  if 2 * r < den then q
  else if 2 * r = den then q + q % 2
  else q + 1

/-- The scale at which a quotient has a significand below 2⁵³. -/
def scaleOfRatio (num den : Nat) : Nat :=
  (num * powerOfTwo leastPower / den).log2 - 52

/-- The rank of the magnitude nearest to a quotient. A significand that is rounded up to 2⁵³ makes
the first rank of the next binade, so that no case is needed for it. -/
def rankOfRatio (num den : Nat) : Nat :=
  let scale := scaleOfRatio num den
  scale * binadeSize + roundQuotient (num * powerOfTwo leastPower) (den * powerOfTwo scale)

/-- The number nearest to a quotient with a positive denominator. -/
def ofRatio (negative : Bool) (num den : Nat) : Binary64 :=
  ⟨negative, min (rankOfRatio num den) infinityRank, Nat.min_le_right _ _⟩

def infinity (negative : Bool) : Binary64 :=
  ⟨negative, infinityRank, Nat.le_refl _⟩

def ofNat (negative : Bool) (n : Nat) : Binary64 :=
  ofRatio negative n 1

def ofInt (n : Int) : Binary64 :=
  ofNat (n < 0) n.natAbs

/-- The number nearest to the decimal `digits` · 10^`exponent`. -/
def ofDecimal (negative : Bool) (digits : Nat) (exponent : Int) : Binary64 :=
  match exponent with
  | .ofNat e => ofRatio negative (digits * powerOfTen e) 1
  | .negSucc e => ofRatio negative digits (powerOfTen (e + 1))

/-! ## Products and quotients -/

/-- The product, rounded once. It is infinite if a factor is. -/
def mul (x y : Binary64) : Binary64 :=
  if x.isFinite && y.isFinite then
    ofRatio (x.negative ^^ y.negative) (x.numerator * y.numerator) (x.denominator * y.denominator)
  else infinity (x.negative ^^ y.negative)

/-- The quotient of finite numbers, rounded once. It is infinite if the divisor is zero. -/
def div (x y : Binary64) : Binary64 :=
  if y.isZero then infinity (x.negative ^^ y.negative)
  else
    ofRatio (x.negative ^^ y.negative) (x.numerator * y.denominator) (x.denominator * y.numerator)

end Binary64
end ReportPlan
