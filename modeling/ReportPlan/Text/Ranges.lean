/-! # Classes of characters given by ranges of code points

A class of characters is data: an ascending list of inclusive ranges of code points.

* `inRanges`: membership of a character in such a list; the search stops at the first range that
  starts beyond the character.
-/

set_option autoImplicit false

namespace ReportPlan.Text

/-- Membership of a code point in an ascending list of inclusive ranges. -/
def codeInRanges (n : Nat) : List (Nat × Nat) → Bool
  | [] => false
  | (first, last) :: rest =>
    if n < first then false else if n ≤ last then true else codeInRanges n rest

/-- Membership of a character in an ascending list of inclusive ranges of code points. -/
def inRanges (ranges : List (Nat × Nat)) (c : Char) : Bool :=
  codeInRanges c.toNat ranges

/-- A member lies in one of the ranges. -/
theorem exists_range_of_codeInRanges {n : Nat} {ranges : List (Nat × Nat)}
    (h : codeInRanges n ranges = true) : ∃ r ∈ ranges, r.1 ≤ n ∧ n ≤ r.2 := by
  induction ranges with
  | nil => simp [codeInRanges] at h
  | cons r rest ih =>
    obtain ⟨first, last⟩ := r
    rw [codeInRanges] at h
    split at h
    · simp at h
    · split at h
      · exact ⟨(first, last), by simp, by simp; omega, by simpa⟩
      · obtain ⟨r, hr, hn⟩ := ih h
        exact ⟨r, by simp [hr], hn⟩

end ReportPlan.Text
