import ReportPlan.Proofs.Report.Refinement
import ReportPlan.Proofs.Shape.Limit
import ReportPlan.Proofs.Threshold.Reading

/-! # Numerals that are read twice

A year, a row limit and the thresholds are read off the same text, and none of them takes its
characters away from the others. A year is a word of its own, and the other numerals begin no later
and end no earlier than their digits do. So a year that shares a character with the numeral of a
limit is all of it, and one that shares a character with the numeral of a threshold is all that
stands between two of its marks.

* `Capture.Within`, `Capture.Apart`: two captures of one text, one in the other or both apart.
* `Capture.IsGroupOf`: a capture is all that stands between the marks of a numeral.
* `DigitsContinue`: the digits at the end of a text continue a word.
* `isGroupOf_or_apart`: a year and another numeral of a text.
* `Compiler.YearIn`, `Compiler.yearIn_of_calendarYear`: the year that a window was read off, and the
  numerals of the limit and the thresholds.
* `calendarYear_within_numerals`: queries with a year that is a limit or a threshold too.
-/

set_option autoImplicit false

namespace ReportPlan

open Pattern Text

/-! ## Two captures of a text -/

namespace Capture

def Within (c d : Capture) : Prop :=
  d.start ≤ c.start ∧ c.stop ≤ d.stop

instance (c d : Capture) : Decidable (c.Within d) :=
  inferInstanceAs (Decidable (_ ∧ _))

/-- Two captures have no character in common. -/
def Apart (c d : Capture) : Prop :=
  c.stop ≤ d.start ∨ d.stop ≤ c.start

/-- A comma or a point, which stand between the digits of a numeral. -/
def IsMark (c : Char) : Prop :=
  c = ',' ∨ c = '.'

/-- A capture is all that stands between the marks of a numeral, or between one and the end. -/
def IsGroupOf (c numeral : Capture) : Prop :=
  ∃ before after, numeral.text = before ++ (c.text ++ after) ∧
    c.start = numeral.start + before.length ∧
    (∀ d ∈ before.getLast?, IsMark d) ∧ ∀ d ∈ after.head?, IsMark d

theorem Apart.not_within {c d : Capture} (h : c.Apart d) (hne : c.text ≠ []) : ¬c.Within d := by
  rintro ⟨hstart, hstop⟩
  have hlength := List.length_pos_iff.2 hne
  simp only [Apart, stop] at h hstop
  omega

theorem IsGroupOf.within {c numeral : Capture} (h : c.IsGroupOf numeral) : c.Within numeral := by
  obtain ⟨before, after, htext, hstart, -, -⟩ := h
  rw [Within, stop, stop, htext, hstart, List.length_append, List.length_append]
  omega

/-- Of two captures that are related in a way or apart, one lies in the other only if they are
related. -/
theorem within_only {c d : Capture} {P : Prop} (hP : P → c.Within d) (hne : c.text ≠ [])
    (h : P ∨ c.Apart d) : (c.Within d → P) ∧ (¬c.Within d → c.Apart d) :=
  ⟨fun hwithin => h.resolve_right fun hapart => hapart.not_within hne hwithin,
    fun hnot => h.resolve_left fun hp => hnot (hP hp)⟩

/-- A numeral without marks is one group. -/
theorem IsGroupOf.eq_of_digits {c numeral : Capture} (h : c.IsGroupOf numeral)
    (hdigits : ∀ d ∈ numeral.text, isDigit d = true) : c = numeral := by
  obtain ⟨before, after, htext, hstart, hbefore, hafter⟩ := h
  have hmark : ∀ d, IsMark d → d ∉ numeral.text := by
    rintro d hd hmem
    have hdigit := hdigits d hmem
    rcases hd with rfl | rfl
    · exact absurd hdigit (by decide)
    · exact absurd hdigit (by decide)
  have hnil : before = [] := by
    rw [← List.getLast?_eq_none_iff, Option.eq_none_iff_forall_not_mem]
    intro d hd
    refine hmark d (hbefore d hd) ?_
    rw [htext]
    exact List.mem_append_left _ (List.mem_of_getLast? hd)
  have hnil' : after = [] := by
    rw [← List.head?_eq_none_iff, Option.eq_none_iff_forall_not_mem]
    intro d hd
    refine hmark d (hafter d hd) ?_
    rw [htext]
    exact List.mem_append_right _ (List.mem_append_right _ (List.mem_of_head? hd))
  subst hnil hnil'
  obtain ⟨start, text⟩ := c
  obtain ⟨start', text'⟩ := numeral
  simp_all

end Capture

/-! ## Where numerals begin -/

/-- The digits at the end of a text, if there are any, continue a word. -/
def DigitsContinue (s : List Char) : Prop :=
  ∀ front digits, s = front ++ digits → digits ≠ [] → (∀ c ∈ digits, isDigit c = true) →
    front.getLast?.any isWordChar = true

theorem digitsContinue_of_getLast? {front s : List Char} (hne : s ≠ [])
    (hs : s.getLast?.any isDigit = false) : DigitsContinue (front ++ s) := by
  intro front' digits hsplit hdigits hall
  have hlast := congrArg List.getLast? hsplit
  rw [List.getLast?_append_of_ne_nil front hne, List.getLast?_append_of_ne_nil front' hdigits,
    List.getLast?_eq_some_getLast hdigits] at hlast
  rw [hlast, Option.any_some, hall _ (List.getLast_mem hdigits)] at hs
  cases hs

theorem digitsContinue_of_word {front ending : List Char} {c : Char}
    (hc : isDigit c = false ∧ isWordChar c = true) (hending : ∀ d ∈ ending, isWordChar d = true) :
    DigitsContinue (front ++ c :: ending) := by
  intro front' digits hsplit hdigits hall
  have hnot : c ∉ digits := by
    intro hmem
    rw [hall c hmem] at hc
    cases hc.1
  rcases List.append_eq_append_iff.1 hsplit with ⟨word, rfl, hword⟩ | ⟨word, rfl, hword⟩
  · cases word with
    | nil => exact absurd (by rw [← List.nil_append digits, ← hword]; simp) hnot
    | cons d word =>
      obtain ⟨rfl, rfl⟩ := List.cons.inj hword
      have hall' : ∀ e ∈ c :: word, isWordChar e = true :=
        List.forall_mem_cons.2 ⟨hc.2, fun e he => hending e (List.mem_append_left _ he)⟩
      rw [List.getLast?_append_of_ne_nil front (List.cons_ne_nil c word),
        List.getLast?_eq_some_getLast (List.cons_ne_nil c word), Option.any_some]
      exact hall' _ (List.getLast_mem _)
  · exact absurd (by rw [hword]; simp) hnot

/-- Where a comparison ends in digits, they are part of its word. -/
theorem digitsContinue_comparator {before comparator : List Char}
    (h : Threshold.IsComparator comparator) : DigitsContinue (before ++ comparator) := by
  rcases h.not_digit_or_exceed with ⟨hne, hlast⟩ | ⟨ending, rfl, hending⟩
  · exact digitsContinue_of_getLast? hne hlast
  · have hsplit : before ++ ("exceed".toList ++ ending) =
        (before ++ "excee".toList) ++ 'd' :: ending := by simp
    rw [hsplit]
    exact digitsContinue_of_word (by decide) hending

theorem digitsContinue_threshold {metric : Metric} {before comparator space : List Char}
    (hcomparator : Threshold.IsComparator comparator) (hspace : metric.IsSpace space) :
    DigitsContinue (before ++ (comparator ++ space)) := by
  cases space with
  | nil =>
    rw [List.append_nil]
    exact digitsContinue_comparator hcomparator
  | cons c space =>
    rw [← List.append_assoc]
    exact digitsContinue_of_getLast? (List.cons_ne_nil c space)
      (getLast?_any_of_forall hspace.not_isDigit)

theorem isDigit_or_isMark_of_isNumeral {s : List Char} (h : Threshold.IsNumeral s) :
    ∀ c ∈ s, isDigit c = true ∨ Capture.IsMark c := by
  obtain ⟨first, whole, fraction, rfl, hfirst, hwhole, hfraction⟩ := h
  have hmember : ∀ c ∈ whole, isDigit c = true ∨ Capture.IsMark c := by
    intro c hc
    have hc' := hwhole c hc
    rw [Threshold.isNumeralChar, Bool.or_eq_true, decide_eq_true_eq] at hc'
    exact hc'.imp_right .inl
  refine List.forall_mem_cons.2 ⟨.inl hfirst, List.forall_mem_append.2 ⟨hmember, ?_⟩⟩
  rcases hfraction with rfl | ⟨places, rfl, -, hplaces⟩
  · exact fun c hc => absurd hc List.not_mem_nil
  · exact List.forall_mem_cons.2 ⟨.inr (.inr rfl), fun c hc => .inl (hplaces c hc)⟩

/-! ## Where a year lies -/

section Year

variable {before year after front numeral rest : List Char}

/-- A year that begins no earlier than a numeral is a group of it, or lies behind it. -/
theorem isGroupOf_or_apart_of_later {u : List Char}
    (htext : numeral ++ rest = u ++ (year ++ after)) (hyear : ∀ c ∈ year, isDigit c = true)
    (hu : (front ++ u).getLast?.any isWordChar = false)
    (hafter : after.head?.any isWordChar = false)
    (hnumeral : ∀ c ∈ numeral, isDigit c = true ∨ Capture.IsMark c)
    (hrest : rest.head?.any isDigit = false) :
    (Capture.mk (front ++ u).length year).IsGroupOf ⟨front.length, numeral⟩ ∨
      (Capture.mk (front ++ u).length year).Apart ⟨front.length, numeral⟩ := by
  have hmark : ∀ c ∈ numeral, isWordChar c = false → Capture.IsMark c := by
    intro c hc hword
    refine (hnumeral c hc).resolve_left fun hdigit => ?_
    rw [isWordChar_of_isDigit hdigit] at hword
    cases hword
  rcases List.append_eq_append_iff.1 htext with ⟨v, rfl, -⟩ | ⟨v, rfl, hv⟩
  · right
    right
    simp [Capture.stop]
  · obtain ⟨w, rfl, rfl⟩ : ∃ w, v = year ++ w ∧ after = w ++ rest := by
      rcases List.append_eq_append_iff.1 hv with ⟨w, rfl, rfl⟩ | ⟨w, rfl, rfl⟩
      · exact ⟨w, rfl, rfl⟩
      · -- a year that went on behind the numeral would have a digit there
        cases w with
        | nil => exact ⟨[], by simp, rfl⟩
        | cons c w =>
          rw [List.cons_append, List.head?_cons, Option.any_some, hyear c (by simp)] at hrest
          cases hrest
    refine .inl ⟨u, w, rfl, List.length_append, fun c hc => ?_, fun c hc => ?_⟩
    · refine hmark c (List.mem_append_left _ (List.mem_of_getLast? hc)) ?_
      rw [List.getLast?_append, hc] at hu
      exact hu
    · refine hmark c (by simp [List.mem_of_head? hc]) ?_
      rw [List.head?_append, hc] at hafter
      exact hafter

/-- A year that has a character in common with a numeral is a group of it: the year is a word of its
own, and the numeral neither begins nor ends amid digits. -/
theorem isGroupOf_or_apart (htext : before ++ (year ++ after) = front ++ (numeral ++ rest))
    (hyear : ∀ c ∈ year, isDigit c = true) (hbefore : before.getLast?.any isWordChar = false)
    (hafter : after.head?.any isWordChar = false) (hfront : DigitsContinue front)
    (hnumeral : ∀ c ∈ numeral, isDigit c = true ∨ Capture.IsMark c)
    (hrest : rest.head?.any isDigit = false) :
    (Capture.mk before.length year).IsGroupOf ⟨front.length, numeral⟩ ∨
      (Capture.mk before.length year).Apart ⟨front.length, numeral⟩ := by
  rcases List.append_eq_append_iff.1 htext with ⟨u, rfl, hlater⟩ | ⟨u, rfl, hlater⟩
  · by_cases hu : u = []
    · subst hu
      have hlater' : numeral ++ rest = [] ++ (year ++ after) := hlater.symm
      have hbefore' : (before ++ []).getLast?.any isWordChar = false := by
        rwa [List.append_nil]
      have h := isGroupOf_or_apart_of_later hlater' hyear hbefore' hafter hnumeral hrest
      rwa [List.append_nil] at h ⊢
    · rcases List.append_eq_append_iff.1 hlater with ⟨v, rfl, -⟩ | ⟨v, rfl, -⟩
      · right
        left
        simp [Capture.stop]
      · -- the numeral would begin amid the digits of the year
        have hword := hfront before u rfl hu fun c hc => hyear c (List.mem_append_left _ hc)
        rw [hword] at hbefore
        cases hbefore
  · exact isGroupOf_or_apart_of_later hlater hyear hbefore hafter hnumeral hrest

end Year

/-! ## The numerals of a report -/

/-- A year and the numeral of a row limit are the same, or apart. -/
theorem eq_or_apart_of_limitCapture? {text : List Char} {year numeral : Capture}
    (hyear : PeriodRule.yearCapture? text = some year)
    (hnumeral : limitCapture? text = some numeral) : year = numeral ∨ year.Apart numeral := by
  obtain ⟨before, after, rfl, hstart, ⟨-, hdigits⟩, hbefore, hafter⟩ :=
    PeriodRule.exists_text_of_yearCapture? hyear
  obtain ⟨front, gap, rest, htext, hplace, hgap, hnumeral', hrest⟩ :=
    exists_text_of_limitCapture? hnumeral
  have hfront : DigitsContinue (front ++ gap) :=
    digitsContinue_of_getLast? hgap.1 (getLast?_any_isDigit_blanks hgap.2)
  have h := isGroupOf_or_apart htext hdigits hbefore hafter hfront
    (fun c hc => .inl (hnumeral' c hc)) hrest
  rw [← hstart, ← hplace] at h
  exact h.imp_left fun hgroup => hgroup.eq_of_digits hnumeral'

/-- A year is a group of the numeral of a threshold, or apart from it. -/
theorem isGroupOf_or_apart_of_numeralCapture? {text : List Char} {metric : Metric}
    {year numeral : Capture} (hyear : PeriodRule.yearCapture? text = some year)
    (hnumeral : numeralCapture? text metric = some numeral) :
    year.IsGroupOf numeral ∨ year.Apart numeral := by
  obtain ⟨before, after, rfl, hstart, ⟨-, hdigits⟩, hbefore, hafter⟩ :=
    PeriodRule.exists_text_of_yearCapture? hyear
  obtain ⟨r, rfl⟩ := exists_reading_of_numeralCapture? hnumeral
  have h := isGroupOf_or_apart r.text_eq_front hdigits hbefore hafter
    (digitsContinue_threshold r.isComparator r.isSpace)
    (isDigit_or_isMark_of_isNumeral r.isNumeral) r.head?_any_isDigit_after
  rw [← hstart] at h
  exact h

/-- The year that the window of a report was read off. The numeral of the row limit holds it only as
a whole, and the numeral of a threshold only as a group; otherwise it has no character in common
with them. -/
structure Compiler.YearIn (c : Compiler) (query : String) (now : Instant) (year : Capture) :
    Prop where
  captured : PeriodRule.yearCapture? (normalize query.toList) = some year
  window : ∃ n, readNat year.text = some n ∧ yearWindow? n = some (c.compile query now).window
  limit : ∀ n, (c.compile query now).limit = some n →
    ∃ numeral, limitCapture? (normalize query.toList) = some numeral ∧
      limitOfNumeral? numeral.text = some n ∧
      (year.Within numeral → year = numeral) ∧ (¬year.Within numeral → year.Apart numeral)
  thresholds : ∀ f ∈ (c.compile query now).filters, f.field ∈ thresholdFields →
    ∃ metric numeral, threshold? (normalize query.toList) metric = some f ∧
      numeralCapture? (normalize query.toList) metric = some numeral ∧
      (year.Within numeral → year.IsGroupOf numeral) ∧ (¬year.Within numeral → year.Apart numeral)

theorem Compiler.yearIn_of_calendarYear {c : Compiler} {query : String} {now : Instant}
    (h : c.rule? query now = some .calendarYear) : ∃ year, c.YearIn query now year := by
  obtain ⟨⟨_, w⟩, hfired, rfl⟩ := Option.map_eq_some_iff.1 h
  have hwindow := window?_of_firedRule? hfired
  simp only [PeriodRule.window?, PeriodRule.number?, Option.bind_eq_bind,
    Option.bind_eq_some_iff] at hwindow
  obtain ⟨m, hm, n, ⟨year, hyear, hn⟩, hw⟩ := hwindow
  have hcaptured : PeriodRule.yearCapture? (normalize query.toList) = some year :=
    Option.bind_eq_some_iff.2 ⟨m, hm, hyear⟩
  obtain ⟨-, -, -, -, ⟨hne, -⟩, -⟩ := PeriodRule.exists_text_of_yearCapture? hcaptured
  refine ⟨year, hcaptured, ⟨n, hn, ?_⟩, ?_, ?_⟩
  · rw [compile_window, windowIn, hfired]
    exact hw
  · intro limit hlimit
    rw [compile_limit, limitIn_eq_bind, Option.bind_eq_some_iff] at hlimit
    obtain ⟨numeral, hnumeral, hread⟩ := hlimit
    refine ⟨numeral, hnumeral, hread, ?_⟩
    exact Capture.within_only (fun heq => heq ▸ ⟨Nat.le_refl _, Nat.le_refl _⟩) hne
      (eq_or_apart_of_limitCapture? hcaptured hnumeral)
  · intro f hf hfield
    have hmem : f ∈ ReportPlan.thresholds (normalize query.toList) := by
      rw [← filter_thresholdFields c]
      exact List.mem_filter.2 ⟨hf, decide_eq_true hfield⟩
    obtain ⟨metric, -, hmetric⟩ := List.mem_filterMap.1 hmem
    obtain ⟨numeral, hnumeral⟩ := exists_numeralCapture?_of_threshold? hmetric
    refine ⟨metric, numeral, hmetric, hnumeral, ?_⟩
    exact Capture.within_only Capture.IsGroupOf.within hne
      (isGroupOf_or_apart_of_numeralCapture? hcaptured hnumeral)

/-- A query with a year that is a row limit, and with a threshold that has digits like a year. -/
theorem Compiler.yearIn_of_calendarYear_top :
    Compiler.standard.rule? "Top 2024 trades, volume above 2,0244"
        (.startOf ⟨2026, 10, 19, by decide, by decide, by decide⟩) = some .calendarYear ∧
      ∃ year, Compiler.standard.YearIn "Top 2024 trades, volume above 2,0244"
        (.startOf ⟨2026, 10, 19, by decide, by decide, by decide⟩) year := by
  have h : Compiler.standard.rule? "Top 2024 trades, volume above 2,0244"
      (.startOf ⟨2026, 10, 19, by decide, by decide, by decide⟩) = some .calendarYear := by
    decide +kernel
  exact ⟨h, Compiler.yearIn_of_calendarYear h⟩

/-- The numeral of a row limit may be the year that gives the window, and so may all digits of the
numeral of a threshold behind the point. -/
theorem calendarYear_within_numerals :
    (Compiler.standard.rule? "Top 2024 trades"
          (.startOf ⟨2026, 10, 19, by decide, by decide, by decide⟩) = some .calendarYear ∧
        (Compiler.standard.compile "Top 2024 trades"
          (.startOf ⟨2026, 10, 19, by decide, by decide, by decide⟩)).limit = some 2024 ∧
        PeriodRule.yearCapture? (normalize "Top 2024 trades".toList) =
          some ⟨4, "2024".toList⟩ ∧
        limitCapture? (normalize "Top 2024 trades".toList) = some ⟨4, "2024".toList⟩ ∧
        Capture.Within ⟨4, "2024".toList⟩ ⟨4, "2024".toList⟩) ∧
      (Compiler.standard.rule? "Volume above 80.2024"
          (.startOf ⟨2026, 10, 19, by decide, by decide, by decide⟩) = some .calendarYear ∧
        (∃ f ∈ (Compiler.standard.compile "Volume above 80.2024"
            (.startOf ⟨2026, 10, 19, by decide, by decide, by decide⟩)).filters,
          threshold? (normalize "Volume above 80.2024".toList) .amount = some f) ∧
        PeriodRule.yearCapture? (normalize "Volume above 80.2024".toList) =
          some ⟨16, "2024".toList⟩ ∧
        numeralCapture? (normalize "Volume above 80.2024".toList) .amount =
          some ⟨13, "80.2024".toList⟩ ∧
        Capture.Within ⟨16, "2024".toList⟩ ⟨13, "80.2024".toList⟩) := by
  decide +kernel

end ReportPlan
