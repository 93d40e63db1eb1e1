import ReportPlan.Proofs.Threshold.Reading

/-! # Numerals that are cut

A word that begins with `exceed` may have any ending, and digits belong to words. So the word takes
the digits that stand in it, all but the last one, which a threshold needs for its numeral:
`exceed50m` is read as more than `0m`. Behind every other comparison, and behind a gap, a numeral is
read from its first digit on.

* `Capture.FollowsDigit`: a digit stands directly before a capture.
* `Capture.CutByExceed`: a capture begins with the last digit of a word that begins with `exceed`,
  and another digit stands before that one.
* `followsDigit_iff_cutByExceed`: no numeral is cut but in such a word.
* `thresholds_followsDigit_iff`: the filters that are made of a part of a numeral.
-/

set_option autoImplicit false

namespace ReportPlan

open Pattern Text Threshold

/-! ## Where a capture begins -/

namespace Capture

variable {c : Capture} {text before after : List Char}

/-- The character before a capture is a digit. -/
def FollowsDigit (c : Capture) (text : List Char) : Prop :=
  (text.take c.start).getLast?.any isDigit = true

instance (c : Capture) (text : List Char) : Decidable (c.FollowsDigit text) :=
  inferInstanceAs (Decidable (_ = true))

/-- A capture divides a word that begins with `exceed` between two digits, and the word has no digit
behind the second one. -/
def CutByExceed (c : Capture) (text : List Char) : Prop :=
  ∃ before ending after : List Char,
    text = (before ++ ("exceed".toList ++ ending)) ++ (c.text ++ after) ∧
      c.start = (before ++ ("exceed".toList ++ ending)).length ∧
      (∀ e ∈ ending, isWordChar e = true) ∧ ending.getLast?.any isDigit = true ∧
      c.text.head?.any isDigit = true ∧
      ∀ d ∈ ((c.text ++ after).takeWhile isWordChar).tail, isDigit d = false

theorem followsDigit_iff (htext : text = before ++ (c.text ++ after))
    (hstart : c.start = before.length) :
    c.FollowsDigit text ↔ before.getLast?.any isDigit = true := by
  rw [FollowsDigit, htext, hstart, List.take_left]

theorem CutByExceed.followsDigit (h : c.CutByExceed text) : c.FollowsDigit text := by
  obtain ⟨before, ending, after, htext, hstart, -, hdigit, -⟩ := h
  rw [followsDigit_iff htext hstart]
  exact getLast?_any_append_iff.2 (.inl (getLast?_any_append_iff.2 (.inl hdigit)))

end Capture

/-! ## The numerals of thresholds -/

namespace Threshold

theorem IsNumeral.head?_any_isDigit {s : List Char} (h : IsNumeral s) :
    s.head?.any isDigit = true := by
  obtain ⟨c, whole, fraction, rfl, hc, -⟩ := h
  exact hc

/-- A comparison that ends in a digit is `exceed` with an ending. -/
theorem IsComparator.exists_ending {before s : List Char} (h : IsComparator s)
    (hdigit : (before ++ s).getLast?.any isDigit = true) :
    ∃ ending : List Char, s = "exceed".toList ++ ending ∧ (∀ c ∈ ending, isWordChar c = true) ∧
      ending.getLast?.any isDigit = true := by
  rcases h.not_digit_or_exceed with ⟨hne, hlast⟩ | ⟨ending, rfl, hending⟩
  · rcases getLast?_any_append_iff.1 hdigit with hlast' | ⟨hnil, -⟩
    · rw [hlast] at hlast'
      cases hlast'
    · exact absurd hnil hne
  · refine ⟨ending, rfl, hending, ?_⟩
    rw [← List.append_assoc] at hdigit
    rcases getLast?_any_append_iff.1 hdigit with hlast | ⟨rfl, hlast⟩
    · exact hlast
    · -- `exceed` itself ends in a letter
      rcases getLast?_any_append_iff.1 hlast with hlast | ⟨hnil, -⟩
      · exact absurd hlast (by decide)
      · exact absurd hnil (by decide)

end Threshold

/-- Before the numeral of a threshold there stands no other digit, unless the numeral is the end of
a word that begins with `exceed`. -/
theorem followsDigit_iff_cutByExceed {text : List Char} {metric : Metric} {numeral : Capture}
    (h : numeralCapture? text metric = some numeral) :
    numeral.FollowsDigit text ↔ numeral.CutByExceed text := by
  refine ⟨fun hdigit => ?_, Capture.CutByExceed.followsDigit⟩
  obtain ⟨r, rfl⟩ := exists_reading_of_numeralCapture? h
  rw [Capture.followsDigit_iff r.text_eq_front rfl, ← List.append_assoc] at hdigit
  -- what stands between a comparison and a numeral does not end in a digit
  rcases getLast?_any_append_iff.1 hdigit with hlast | ⟨hspace, hlast⟩
  · rw [getLast?_any_of_forall r.isSpace.not_isDigit] at hlast
    cases hlast
  · obtain ⟨ending, hexceed, hending, hlast'⟩ := r.isComparator.exists_ending hlast
    have hleft := r.leavesOneDigit ending hexceed
    have htext := r.text_eq_front
    rw [hspace, hexceed, List.append_nil] at htext
    rw [hspace] at hleft
    refine ⟨r.front, ending, r.after, htext, ?_, hending, hlast', r.isNumeral.head?_any_isDigit,
      hleft⟩
    rw [hspace, hexceed, List.append_nil]

/-- Each filter on a metric is made of the numeral that is captured for it. The numeral is the whole
one that the text has there, unless a word that begins with `exceed` has taken digits of it. -/
theorem thresholds_followsDigit_iff {text : List Char} {f : Filter} (h : f ∈ thresholds text) :
    ∃ metric numeral suffix x, threshold? text metric = some f ∧
      numeralCapture? text metric = some numeral ∧ value? metric numeral.text suffix = some x ∧
      (f = .lessThan metric.field x ∨ f = .greaterThan metric.field x) ∧
      (numeral.FollowsDigit text ↔ numeral.CutByExceed text) := by
  obtain ⟨metric, -, hf⟩ := List.mem_filterMap.1 h
  have hthreshold := hf
  simp only [threshold?, Option.bind_eq_bind, Option.bind_eq_some_iff, Option.some.injEq] at hf
  obtain ⟨m, hm, c, -, numeral, hn, x, hx, rfl⟩ := hf
  have hnumeral : numeralCapture? text metric = some numeral :=
    Option.bind_eq_some_iff.2 ⟨m, hm, hn⟩
  refine ⟨metric, numeral, _, x, hthreshold, hnumeral, hx, ?_,
    followsDigit_iff_cutByExceed hnumeral⟩
  split
  · exact .inl rfl
  · exact .inr rfl

theorem thresholds_followsDigit_iff_exceed :
    .greaterThan "amount_ngn" (Binary64.ofNat false 0) ∈ thresholds "volume exceed50m".toList ∧
      ∃ metric numeral suffix x,
        threshold? "volume exceed50m".toList metric =
            some (.greaterThan "amount_ngn" (Binary64.ofNat false 0)) ∧
          numeralCapture? "volume exceed50m".toList metric = some numeral ∧
          value? metric numeral.text suffix = some x ∧
          (.greaterThan "amount_ngn" (Binary64.ofNat false 0) = Filter.lessThan metric.field x ∨
            .greaterThan "amount_ngn" (Binary64.ofNat false 0) =
              Filter.greaterThan metric.field x) ∧
          (numeral.FollowsDigit "volume exceed50m".toList ↔
            numeral.CutByExceed "volume exceed50m".toList) := by
  have h : .greaterThan "amount_ngn" (Binary64.ofNat false 0) ∈
      thresholds "volume exceed50m".toList := by decide +kernel
  exact ⟨h, thresholds_followsDigit_iff h⟩

/-- Fifty million that are read as zero million behind `exceed`, and as they are behind `above`. -/
theorem exceed_fifty_is_cut :
    threshold? "volume exceed50m".toList .amount =
        some (.greaterThan "amount_ngn" (Binary64.ofNat false 0)) ∧
      numeralCapture? "volume exceed50m".toList .amount = some ⟨14, "0".toList⟩ ∧
      Capture.FollowsDigit ⟨14, "0".toList⟩ "volume exceed50m".toList ∧
      threshold? "volume above50m".toList .amount =
        some (.greaterThan "amount_ngn" (Binary64.ofNat false 50000000)) := by
  decide +kernel

end ReportPlan
