import ReportPlan.Proofs.Threshold.Numeral
import ReportPlan.Proofs.Threshold.OneReading

/-! # Magnitudes behind numerals

A metric, a comparison and a numeral at the beginning of a text are read as they stand there, and
the filter has the number times what the next word stands for.

* `Metric.Reading.opening`: the reading of such a threshold.
* `threshold?_worded`, `thresholds_worded`: its filter.
-/

set_option autoImplicit false

namespace ReportPlan

open Pattern Text Threshold

namespace Metric.Reading

variable {metric : Metric} {m : String} {c rest : List Char} {d : WrittenNumeral}

/-- A metric, a comparison and a numeral begin a text, with a space between each two. -/
def opening (hm : m ∈ metric.words) (hc : IsComparator c) (hrest : d.EndsAt rest) :
    metric.Reading (m.toList ++ ' ' :: (c ++ ' ' :: (d.text ++ rest))) where
  before := []
  word := m
  link := [' ']
  comparator := c
  space := [' ']
  numeral := d.text
  after := rest
  text_eq := rfl
  word_mem := hm
  isLink := ⟨[], [' '], rfl, .inl rfl, [' '], [], rfl,
    List.forall_mem_singleton.2 isBlank_space, .inl rfl⟩
  isComparator := hc
  isSpace := ⟨[], [' '], [], rfl, .inl rfl, List.forall_mem_singleton.2 isBlank_space, .inl rfl⟩
  isNumeral := d.isNumeral_text
  comparator_longest := by
    intro x y hsplit hlonger _
    cases x with
    | nil => rfl
    | cons e x =>
      -- a longer comparison would go on with a character of words, and there is a space
      obtain ⟨rfl, -⟩ := List.cons.inj hsplit
      obtain ⟨-, -, hx⟩ := hc.exceed_of_append hlonger (List.cons_ne_nil _ x)
      exact absurd (hx ' ' List.mem_cons_self) (by decide)
  numeral_longest := by
    rintro x y rfl hlonger
    exact WrittenNumeral.eq_nil_of_isNumeral hrest hlonger

theorem isFirst_opening (hm : m ∈ metric.words) (hc : IsComparator c) (hrest : d.EndsAt rest) :
    (opening hm hc hrest).IsFirst :=
  fun _ _ _ _ => Nat.zero_le _

end Metric.Reading

/-! ## Values and filters -/

theorem Metric.field_inj {metric other : Metric} : other.field = metric.field ↔ other = metric := by
  cases other <;> cases metric <;> decide

/-- Of the filters of all thresholds, those on the field of a metric are read off its own
pattern. -/
theorem thresholds_filter_field (text : List Char) (metric : Metric) :
    (thresholds text).filter (fun f => decide (f.field = metric.field)) =
      (threshold? text metric).toList := by
  -- each metric has a field of its own
  have hpick : ∀ other, (threshold? text other).filter (fun f => decide (f.field = metric.field)) =
      if other = metric then threshold? text metric else none := by
    intro other
    cases h : threshold? text other with
    | none =>
      split
      · rename_i heq
        rw [← heq, h]
        rfl
      · rfl
    | some f =>
      have hfield : f.field = other.field := field_of_threshold? h
      simp only [Option.filter, hfield, Metric.field_inj, decide_eq_true_eq]
      split
      · rename_i heq
        rw [← heq, h]
      · rfl
  rw [thresholds, List.filter_filterMap]
  simp only [hpick]
  cases metric with
  | amount => cases threshold? text .amount <;> rfl
  | exposure => cases threshold? text .exposure <;> rfl
  | utilization => cases threshold? text .utilization <;> rfl

/-- The product of the number that a numeral writes and the factor of what follows it. -/
def product (metric : Metric) (d : WrittenNumeral) (rest : List Char) : Binary64 :=
  d.nearest.mul (.ofNat false (metric.factor rest))

theorem threshold?_worded {metric : Metric} {m : String} {c : List Char} {d : WrittenNumeral}
    {rest : List Char} (hm : m ∈ metric.words) (hc : IsComparator c) (hrest : d.EndsAt rest) :
    threshold? (m.toList ++ ' ' :: (c ++ ' ' :: (d.text ++ rest))) metric =
      if (product metric d rest).isFinite then
        some (if c = ['<'] then .lessThan metric.field (product metric d rest)
          else .greaterThan metric.field (product metric d rest))
      else none := by
  have hvalue : (Metric.Reading.opening hm hc hrest).value? =
      if (product metric d rest).isFinite then some (product metric d rest) else none :=
    Metric.Reading.value?_of_numeralValue? d.numeralValue?_text
  rw [threshold?_of_isFirst (Metric.Reading.isFirst_opening hm hc hrest), hvalue]
  split <;> rfl

/-- A number behind a metric and a comparison is multiplied by what the whole next word stands for;
percentages are left as they are. There is no filter exactly if the product is not finite. -/
theorem thresholds_worded {metric : Metric} {m c : String} {d : WrittenNumeral} {rest : List Char}
    (hm : m ∈ metric.words)
    (hc : c ∈ ["greater", "more", "above", "over", "exceeds", ">", "<"])
    (hrest : d.EndsAt rest) :
    (thresholds ((m ++ " " ++ c ++ " ").toList ++ d.text ++ rest)).filter
        (fun f => decide (f.field = metric.field)) =
      let factor := if metric.isScaled then magnitudeFactor (nextWord rest) else 1
      let y := d.nearest.mul (.ofNat false factor)
      if y.isFinite then
        [if c = "<" then .lessThan metric.field y else .greaterThan metric.field y]
      else [] := by
  have hcomparator : IsComparator c.toList := by
    simp only [List.mem_cons, List.not_mem_nil, or_false] at hc
    rcases hc with rfl | rfl | rfl | rfl | rfl | rfl | rfl
    · exact .inl ⟨"greater", by simp, rfl⟩
    · exact .inl ⟨"more", by simp, rfl⟩
    · exact .inl ⟨"above", by simp, rfl⟩
    · exact .inl ⟨"over", by simp, rfl⟩
    · exact .inr (.inl ⟨['s'], rfl, List.forall_mem_singleton.2 (by decide)⟩)
    · exact .inr (.inr ⟨">", by simp, rfl⟩)
    · exact .inr (.inr ⟨"<", by simp, rfl⟩)
  have hsign : c.toList = "<".toList ↔ c = "<" := String.toList_inj
  have htext : (m ++ " " ++ c ++ " ").toList ++ d.text ++ rest =
      m.toList ++ ' ' :: (c.toList ++ ' ' :: (d.text ++ rest)) := by
    simp
  show _ = if (product metric d rest).isFinite then
      [if c = "<" then Filter.lessThan metric.field (product metric d rest)
        else Filter.greaterThan metric.field (product metric d rest)] else []
  rw [htext, thresholds_filter_field, threshold?_worded hm hcomparator hrest]
  rw [show ['<'] = "<".toList from rfl]
  simp only [hsign]
  split <;> rfl

/-- A comma and a point in the numeral, and a word that goes up to a comma. -/
theorem thresholds_worded_billions :
    (thresholds "volume < 2,500.5 bn, by desk".toList).filter
        (fun f => decide (f.field = "amount_ngn")) =
      [.lessThan "amount_ngn" (.ofDecimal false 25005 8)] := by
  let d : WrittenNumeral := ⟨'2', [',', '5', '0', '0'], ['5'], by decide, by simp [isPlainDigit],
    List.forall_mem_singleton.2 (by decide)⟩
  have hplaces : d.places ≠ [] := List.cons_ne_nil _ _
  have hrest : d.EndsAt " bn, by desk".toList :=
    ⟨by decide, fun h => absurd h hplaces, fun h => absurd h hplaces⟩
  have hproduct : d.nearest.mul (.ofNat false (magnitudeFactor (nextWord " bn, by desk".toList))) =
      .ofDecimal false 25005 8 := by decide +kernel
  have hfilters := @thresholds_worded .amount "volume" "<" d _ (by decide) (by decide) hrest
  have hfinite : (Binary64.ofDecimal false 25005 8).isFinite = true := by decide +kernel
  simp only [Metric.isScaled, if_true, hproduct, hfinite] at hfilters
  exact hfilters

end ReportPlan
