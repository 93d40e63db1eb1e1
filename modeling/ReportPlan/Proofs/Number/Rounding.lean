import ReportPlan.Number.Binary64

/-! # Rounding and exact products

Rounding does not depend on how a quotient is written, and it leaves a number of the format as it
is. So the product with one is the number itself.

* `ofRatio_mul_right`: a common factor of numerator and denominator does not count.
* `rank_eq`: the rank of a number from its scale and its significand.
* `ofRatio_self`: a number is what its own quotient is rounded to.
* `mul_one`: the product of a number with one.
-/

set_option autoImplicit false

namespace ReportPlan

theorem powerOfTwo_add (a b : Nat) : powerOfTwo (a + b) = powerOfTwo a * powerOfTwo b :=
  Nat.pow_add 2 a b

theorem log2_eq_of_between {n k : Nat} (hlow : powerOfTwo k ≤ n) (hhigh : n < powerOfTwo (k + 1)) :
    n.log2 = k :=
  (Nat.log2_eq_iff (Nat.ne_of_gt (Nat.lt_of_lt_of_le (powerOfTwo_pos k) hlow))).2 ⟨hlow, hhigh⟩

theorem binadeSize_pos : 0 < binadeSize :=
  powerOfTwo_pos 52

namespace Binary64

/-! ## Quotients -/

theorem roundQuotient_mul_right {num den k : Nat} (hk : 0 < k) :
    roundQuotient (num * k) (den * k) = roundQuotient num den := by
  have hless : 2 * (num % den * k) < den * k ↔ 2 * (num % den) < den := by
    rw [← Nat.mul_assoc]
    exact Nat.mul_lt_mul_right hk
  have hsame : 2 * (num % den * k) = den * k ↔ 2 * (num % den) = den := by
    rw [← Nat.mul_assoc]
    exact Nat.mul_right_cancel_iff hk
  simp only [roundQuotient, Nat.mul_div_mul_right _ _ hk, Nat.mul_mod_mul_right, hless, hsame]

theorem ofRatio_mul_right (negative : Bool) {num den k : Nat} (hk : 0 < k) :
    ofRatio negative (num * k) (den * k) = ofRatio negative num den := by
  have hscale : scaleOfRatio (num * k) (den * k) = scaleOfRatio num den := by
    rw [scaleOfRatio, scaleOfRatio, Nat.mul_right_comm, Nat.mul_div_mul_right _ _ hk]
  have hrank : rankOfRatio (num * k) (den * k) = rankOfRatio num den := by
    rw [rankOfRatio, rankOfRatio, hscale, Nat.mul_right_comm num, Nat.mul_right_comm den,
      roundQuotient_mul_right hk]
  simp only [ofRatio, hrank]

theorem ofDecimal_neg (negative : Bool) (n k : Nat) :
    ofDecimal negative n (-(k : Int)) = ofRatio negative n (powerOfTen k) := by
  cases k with
  | zero =>
    show ofRatio negative (n * powerOfTen 0) 1 = _
    rw [show powerOfTen 0 = 1 from rfl, Nat.mul_one]
  | succ k => rfl

theorem roundQuotient_mul_self (q : Nat) {den : Nat} (hden : 0 < den) :
    roundQuotient (q * den) den = q := by
  rw [roundQuotient, Nat.mul_mod_left, Nat.mul_div_cancel _ hden]
  simp [hden]

/-! ## The number that a quotient is -/

section Parts

variable (x : Binary64)

theorem significand_lt : x.significand < 2 * binadeSize := by
  have hmod := Nat.mod_lt x.rank binadeSize_pos
  rw [significand]
  split <;> omega

/-- A significand is below 2⁵² at the least scale only. -/
theorem binadeSize_le_significand (h : 0 < x.scale) : binadeSize ≤ x.significand := by
  have hrank : ¬x.rank < binadeSize := by
    intro hlt
    rw [scale, Nat.div_eq_of_lt hlt] at h
    exact absurd h (Nat.lt_irrefl 0)
  rw [significand, if_neg hrank]
  exact Nat.le_add_right _ _

theorem rank_eq : x.rank = x.scale * binadeSize + x.significand := by
  rw [scale, significand]
  split
  · rename_i hlt
    rw [Nat.div_eq_of_lt hlt]
    simp
  · rename_i hge
    have hquotient : 1 ≤ x.rank / binadeSize :=
      (Nat.one_le_div_iff binadeSize_pos).2 (Nat.le_of_not_lt hge)
    have hdivide := Nat.div_add_mod' x.rank binadeSize
    rw [Nat.sub_mul, Nat.one_mul]
    have hle : binadeSize ≤ x.rank / binadeSize * binadeSize := Nat.le_mul_of_pos_left _ hquotient
    omega

theorem numerator_mul_leastPower : x.numerator * powerOfTwo leastPower =
    x.significand * powerOfTwo x.scale * x.denominator := by
  have hexponents : x.scale - leastPower + leastPower = x.scale + (leastPower - x.scale) := by omega
  rw [numerator, denominator, Nat.mul_assoc, Nat.mul_assoc, ← powerOfTwo_add, ← powerOfTwo_add,
    hexponents]

theorem log2_significand_mul :
    (x.significand * powerOfTwo x.scale).log2 - 52 = x.scale := by
  have hlt := x.significand_lt
  -- at the least scale the significand may have fewer than 53 bits
  rcases Nat.eq_zero_or_pos x.scale with hzero | hpos
  · have hlog : x.significand.log2 < 53 := by
      rcases Nat.eq_zero_or_pos x.significand with hnone | hsome
      · rw [hnone, Nat.log2_zero]
        decide
      · exact (Nat.log2_lt (Nat.ne_of_gt hsome)).2 hlt
    rw [hzero, show powerOfTwo 0 = 1 from rfl, Nat.mul_one]
    omega
  · have hle := x.binadeSize_le_significand hpos
    have hlow : powerOfTwo (52 + x.scale) ≤ x.significand * powerOfTwo x.scale := by
      rw [powerOfTwo_add]
      exact Nat.mul_le_mul_right _ hle
    have hhigh : x.significand * powerOfTwo x.scale < powerOfTwo (52 + x.scale + 1) := by
      rw [Nat.add_right_comm, powerOfTwo_add]
      exact Nat.mul_lt_mul_of_pos_right hlt (powerOfTwo_pos _)
    rw [log2_eq_of_between hlow hhigh, Nat.add_sub_cancel_left]

theorem scaleOfRatio_self : scaleOfRatio x.numerator x.denominator = x.scale := by
  rw [scaleOfRatio, numerator_mul_leastPower, Nat.mul_div_cancel _ x.denominator_pos,
    log2_significand_mul]

theorem ofRatio_self : ofRatio x.negative x.numerator x.denominator = x := by
  have hround : roundQuotient (x.numerator * powerOfTwo leastPower)
      (x.denominator * powerOfTwo x.scale) = x.significand := by
    rw [numerator_mul_leastPower, Nat.mul_assoc, Nat.mul_comm (powerOfTwo x.scale)]
    exact roundQuotient_mul_self _ (Nat.mul_pos x.denominator_pos (powerOfTwo_pos _))
  have hrank : rankOfRatio x.numerator x.denominator = x.rank := by
    rw [rankOfRatio, scaleOfRatio_self, hround, ← rank_eq]
  simp only [ofRatio, hrank, Nat.min_eq_left x.rank_le]

theorem eq_infinity_of_not_isFinite (h : x.isFinite = false) : x = infinity x.negative := by
  have hrank : x.rank = infinityRank :=
    Nat.le_antisymm x.rank_le (Nat.le_of_not_lt (of_decide_eq_false h))
  cases x
  cases hrank
  rfl

theorem mul_one : x.mul (ofNat false 1) = x := by
  have hone : (ofNat false 1).numerator = binadeSize ∧ (ofNat false 1).denominator = binadeSize ∧
      (ofNat false 1).isFinite = true ∧ (ofNat false 1).negative = false := by decide +kernel
  obtain ⟨hnumerator, hdenominator, hfinite, hnegative⟩ := hone
  rw [mul, hfinite, hnumerator, hdenominator, hnegative, Bool.xor_false, Bool.and_true]
  cases h : x.isFinite with
  | true => rw [if_pos rfl, ofRatio_mul_right _ binadeSize_pos, ofRatio_self]
  | false => exact (x.eq_infinity_of_not_isFinite h).symm

end Parts

end Binary64
end ReportPlan
