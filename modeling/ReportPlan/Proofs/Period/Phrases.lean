import Mathlib.Data.List.Basic
import ReportPlan.Period
import ReportPlan.Proofs.Number.Decimal
import ReportPlan.Proofs.Pattern.Spelling
import ReportPlan.Proofs.Text.Appended
import ReportPlan.Proofs.Text.Runs

/-! # Phrases with numbers

The words of the patterns for `last 30 days`, `q3 2026` and `2026`. Each is read in one way only,
and none has another one inside, so that a text which goes on behind a word has the same leftmost
match.

* `spells_lastDaysPattern`, `spells_quarterPattern`, `spells_yearPattern`: the words and captures.
* `lastDaysPattern_unambiguous`, `lastDaysPattern_separate`, and so on: what makes matches stay.
* `window?_of_extends`: the window of a pattern in a text with more words.
* `exists_lastDaysAt_of_window?`: the number of days that a text names first.
* `exists_quarterAt_of_window?`, `exists_yearAt_of_window?`: the quarter and the year that a text
  names first, as words of their own.
* `quarterNamed?`, `yearNamed?`: these two, and texts that name a given one.
* `yearCapture?`: that year with its place, between characters that are no parts of words.
-/

set_option autoImplicit false

namespace ReportPlan
namespace PeriodRule

open Pattern Text

variable {before word after : List Char} {earlier captures : Captures PeriodPart}

/-! ## Words -/

theorem spells_lastDaysPattern :
    lastDaysPattern.Spells before word after [] captures ↔
      ∃ gap days gap' : List Char,
        word = "last".toList ++ (gap ++ (days ++ (gap' ++ "day".toList))) ∧
        (gap ≠ [] ∧ ∀ c ∈ gap, isBlank c = true) ∧ (days ≠ [] ∧ ∀ c ∈ days, isDigit c = true) ∧
        (gap' ≠ [] ∧ ∀ c ∈ gap', isBlank c = true) ∧
        captures = [(.days, ⟨before.length + 4 + gap.length, days⟩)] := by
  simp only [lastDaysPattern, Pattern.gap, digitRun, spells_append_assoc, spells_word_append,
    spells_several_append, spells_capture_append, spells_several, spells_word]
  constructor
  · rintro ⟨_, rfl, gap, _, rfl, hgap, days, _, _, rfl, ⟨hdays, rfl⟩, gap', _, rfl, hgap', rfl, rfl⟩
    refine ⟨gap, days, gap', rfl, hgap, hdays, hgap', ?_⟩
    simp
    omega
  · rintro ⟨gap, days, gap', rfl, hgap, hdays, hgap', rfl⟩
    refine ⟨_, rfl, gap, _, rfl, hgap, days, _, _, rfl, ⟨hdays, rfl⟩, gap', _, rfl, hgap', rfl, ?_⟩
    simp
    omega

theorem spells_quarterPattern :
    quarterPattern.Spells before word after [] captures ↔
      ∃ (quarter : Char) (gap year : List Char),
        word = 'q' :: quarter :: (gap ++ year) ∧
        isQuarterDigit quarter = true ∧ (∀ c ∈ gap, isBlank c = true) ∧
        (year.length = 4 ∧ ∀ c ∈ year, isDigit c = true) ∧
        (Cursor.mk before (word ++ after)).atEdge = true ∧
        (Cursor.mk (word.reverse ++ before) after).atEdge = true ∧
        captures = [(.year, ⟨before.length + 2 + gap.length, year⟩),
          (.quarter, ⟨before.length + 1, [quarter]⟩)] := by
  simp only [quarterPattern, Pattern.blanks, spells_append_assoc, spells_edge_append,
    spells_word_append, spells_capture_append, spells_many_append, spells_one_append, spells_one,
    spells_edge]
  constructor
  · rintro ⟨hstart, _, rfl, _, _, _, rfl, ⟨⟨quarter, rfl, hquarter⟩, rfl⟩, gap, _, rfl, hgap,
      year, _, _, rfl, ⟨a, _, rfl, ha, b, _, rfl, hb, c, _, rfl, hc, ⟨d, rfl, hd⟩, rfl⟩,
      rfl, hstop, rfl⟩
    refine ⟨quarter, gap, [a, b, c, d], by simp, hquarter, hgap, by simp [ha, hb, hc, hd],
      by simpa using hstart, by simpa using hstop, ?_⟩
    simp
    omega
  · rintro ⟨quarter, gap, year, rfl, hquarter, hgap, ⟨hlength, hyear⟩, hstart, hstop, rfl⟩
    obtain ⟨a, rest, rfl⟩ := List.exists_cons_of_length_eq_add_one hlength
    obtain ⟨b, c, d, rfl⟩ := List.length_eq_three.1 (Nat.succ.inj hlength)
    refine ⟨by simpa using hstart, _, rfl, _, _, _, rfl, ⟨⟨quarter, rfl, hquarter⟩, rfl⟩,
      gap, _, rfl, hgap, _, _, _, (List.append_nil _).symm,
      ⟨a, _, rfl, hyear a (by simp), b, _, rfl, hyear b (by simp), c, _, rfl, hyear c (by simp),
        ⟨d, rfl, hyear d (by simp)⟩, rfl⟩, rfl, by simpa using hstop, ?_⟩
    simp
    omega

theorem spells_yearPattern :
    yearPattern.Spells before word after [] captures ↔
      ∃ decade : List Char,
        word = "20".toList ++ decade ∧ (decade.length = 2 ∧ ∀ c ∈ decade, isDigit c = true) ∧
        (Cursor.mk before (word ++ after)).atEdge = true ∧
        (Cursor.mk (word.reverse ++ before) after).atEdge = true ∧
        captures = [(.year, ⟨before.length, word⟩)] := by
  simp only [yearPattern, spells_append_assoc, spells_edge_append, spells_word_append,
    spells_capture_append, spells_one_append, spells_one, spells_edge]
  constructor
  · rintro ⟨hstart, _, _, _, rfl, ⟨_, rfl, c, _, rfl, hc, ⟨d, rfl, hd⟩, rfl⟩, rfl, hstop, rfl⟩
    exact ⟨[c, d], by simp, by simp [hc, hd], by simpa using hstart, by simpa using hstop, rfl⟩
  · rintro ⟨decade, rfl, ⟨hlength, hdecade⟩, hstart, hstop, rfl⟩
    obtain ⟨c, d, rfl⟩ := List.length_eq_two.1 hlength
    exact ⟨by simpa using hstart, _, _, _, (List.append_nil _).symm,
      ⟨_, rfl, c, _, rfl, hdecade c (by simp), ⟨d, rfl, hdecade d (by simp)⟩, rfl⟩,
      rfl, by simpa using hstop, rfl⟩

/-! ## One reading -/

theorem lastDaysPattern_unambiguous : lastDaysPattern.Unambiguous := by
  intro before word after word' after' captures captures' htext hword hword'
  obtain ⟨gap, days, gap', rfl, hgap, hdays, hgap', rfl⟩ := spells_lastDaysPattern.1 hword
  obtain ⟨gap₂, days₂, gap₂', rfl, hgap₂, hdays₂, hgap₂', rfl⟩ := spells_lastDaysPattern.1 hword'
  simp only [List.append_assoc, List.append_cancel_left_eq] at htext
  obtain ⟨rfl, hrest⟩ := run_append_inj hgap.2 hgap₂.2 (head?_any_isBlank_digits hdays)
    (head?_any_isBlank_digits hdays₂) htext
  obtain ⟨rfl, -⟩ := run_append_inj hdays.2 hdays₂.2 (head?_any_isDigit_blanks hgap')
    (head?_any_isDigit_blanks hgap₂') hrest
  rfl

theorem quarterPattern_unambiguous : quarterPattern.Unambiguous := by
  intro before word after word' after' captures captures' htext hword hword'
  obtain ⟨quarter, gap, year, rfl, -, hgap, ⟨hlength, hyear⟩, -, -, rfl⟩ :=
    spells_quarterPattern.1 hword
  obtain ⟨quarter₂, gap₂, year₂, rfl, -, hgap₂, ⟨hlength₂, hyear₂⟩, -, -, rfl⟩ :=
    spells_quarterPattern.1 hword'
  simp only [List.cons_append, List.append_assoc, List.cons.injEq, true_and] at htext
  obtain ⟨rfl, htext⟩ := htext
  have hne : year ≠ [] := List.ne_nil_of_length_pos (by omega)
  have hne₂ : year₂ ≠ [] := List.ne_nil_of_length_pos (by omega)
  obtain ⟨rfl, hrest⟩ := run_append_inj hgap hgap₂ (head?_any_isBlank_digits ⟨hne, hyear⟩)
    (head?_any_isBlank_digits ⟨hne₂, hyear₂⟩) htext
  rw [(List.append_inj hrest (hlength.trans hlength₂.symm)).1]

theorem yearPattern_unambiguous : yearPattern.Unambiguous := by
  intro before word after word' after' captures captures' htext hword hword'
  obtain ⟨decade, rfl, ⟨hlength, -⟩, -, -, rfl⟩ := spells_yearPattern.1 hword
  obtain ⟨decade₂, rfl, ⟨hlength₂, -⟩, -, -, rfl⟩ := spells_yearPattern.1 hword'
  simp only [List.append_assoc, List.append_cancel_left_eq] at htext
  rw [(List.append_inj htext (hlength.trans hlength₂.symm)).1]

/-! ## No word inside another one -/

theorem lastDaysPattern_separate : lastDaysPattern.Separate := by
  refine separate_of_head (c := 'l') fun before word after captures hword => ?_
  obtain ⟨gap, days, gap', rfl, hgap, hdays, hgap', -⟩ := spells_lastDaysPattern.1 hword
  refine ⟨"ast".toList ++ (gap ++ (days ++ (gap' ++ "day".toList))), rfl, fun hmem => ?_⟩
  have hblank : isBlank 'l' = false := by decide
  have hdigit : isDigit 'l' = false := by decide
  have hword : 'l' ∉ "ast".toList ++ "day".toList := by decide
  simp only [List.mem_append, not_or] at hmem hword
  rcases hmem with hmem | hmem | hmem | hmem | hmem
  · exact hword.1 hmem
  · simp [hgap.2 _ hmem] at hblank
  · simp [hdays.2 _ hmem] at hdigit
  · simp [hgap'.2 _ hmem] at hblank
  · exact hword.2 hmem

theorem quarterPattern_separate : quarterPattern.Separate := by
  refine separate_of_head (c := 'q') fun before word after captures hword => ?_
  obtain ⟨quarter, gap, year, rfl, hquarter, hgap, ⟨-, hyear⟩, -⟩ := spells_quarterPattern.1 hword
  refine ⟨_, rfl, fun hmem => ?_⟩
  have hblank : isBlank 'q' = false := by decide
  have hdigit : isDigit 'q' = false := by decide
  have hnumber : isQuarterDigit 'q' = false := by decide
  simp only [List.mem_cons, List.mem_append] at hmem
  rcases hmem with rfl | hmem | hmem
  · simp [hquarter] at hnumber
  · simp [hgap _ hmem] at hblank
  · simp [hyear _ hmem] at hdigit

theorem yearPattern_separate : yearPattern.Separate := by
  refine separate_of_length (n := 4) fun before word after captures hword => ?_
  obtain ⟨decade, rfl, ⟨hlength, -⟩, -⟩ := spells_yearPattern.1 hword
  rw [List.length_append, hlength]
  rfl

/-! ## More words -/

theorem find?_of_extends {ι : Type} {p : Pattern ι} (hunique : p.Unambiguous)
    (hseparate : p.Separate) (hnil : p.find? [] = none) {text longer : List Char}
    (h : Text.Extends text longer) {m : Match ι} (hm : p.find? text = some m) :
    p.find? longer = some m := by
  rcases h with rfl | rfl | ⟨rest, rfl⟩
  · rw [hnil] at hm
    cases hm
  · exact hm
  · have hspace : (' ' :: rest).head?.any isWordChar = false := by
      show isWordChar ' ' = false
      decide
    exact find?_append hunique hseparate hspace hm

/-- A rule that is found by a pattern keeps its window when more words follow. -/
theorem window?_of_extends {mode : MatchMode} {text longer : List Char} {now : Instant}
    (h : Text.Extends text longer) {rule : PeriodRule} {w : Window}
    (hw : rule.window? mode text now = some w)
    (hrule : rule = lastDays ∨ rule = quarterOfYear ∨ rule = calendarYear) :
    rule.window? mode longer now = some w := by
  rcases hrule with rfl | rfl | rfl <;>
    simp only [window?, Option.bind_eq_bind, Option.bind_eq_some_iff] at hw ⊢ <;>
    obtain ⟨m, hm, hrest⟩ := hw
  · exact ⟨m, find?_of_extends lastDaysPattern_unambiguous lastDaysPattern_separate rfl h hm, hrest⟩
  · exact ⟨m, find?_of_extends quarterPattern_unambiguous quarterPattern_separate rfl h hm, hrest⟩
  · exact ⟨m, find?_of_extends yearPattern_unambiguous yearPattern_separate rfl h hm, hrest⟩

/-! ## Numbers of days -/

/-- Behind the characters `before`, a text has the words `last` and `day` with a number between
them. -/
def LastDaysAt (text before days : List Char) : Prop :=
  ∃ gap gap' after : List Char,
    text = before ++ (("last".toList ++ (gap ++ (days ++ (gap' ++ "day".toList)))) ++ after) ∧
    (gap ≠ [] ∧ ∀ c ∈ gap, isBlank c = true) ∧ (days ≠ [] ∧ ∀ c ∈ days, isDigit c = true) ∧
    (gap' ≠ [] ∧ ∀ c ∈ gap', isBlank c = true)

theorem lastDaysAt_of_matchesAt {text before : List Char} {captures : Captures PeriodPart}
    (h : lastDaysPattern.MatchesAt text before captures) :
    ∃ start days, LastDaysAt text before days ∧ captures = [(.days, ⟨start, days⟩)] := by
  obtain ⟨word, after, rfl, hword⟩ := h.exists_spells
  obtain ⟨gap, days, gap', rfl, hgap, hdays, hgap', rfl⟩ := spells_lastDaysPattern.1 hword
  exact ⟨_, days, ⟨gap, gap', after, rfl, hgap, hdays, hgap'⟩, rfl⟩

/-- Behind the characters `before`, a text has a year from `2000` on, and no part of a word at
either side. -/
def YearAt (text before year : List Char) : Prop :=
  ∃ decade after, text = before ++ (year ++ after) ∧ year = "20".toList ++ decade ∧
    (decade.length = 2 ∧ ∀ c ∈ decade, isDigit c = true) ∧
    before.getLast?.any isWordChar = false ∧ after.head?.any isWordChar = false

/-- A text that begins and ends with parts of words is a word of its own if nothing goes on. -/
theorem atEdges_iff {word : List Char} (hfirst : word.head?.any isWordChar = true)
    (hlast : word.getLast?.any isWordChar = true) (before after : List Char) :
    ((Cursor.mk before.reverse (word ++ after)).atEdge = true ∧
        (Cursor.mk (word.reverse ++ before.reverse) after).atEdge = true) ↔
      before.getLast?.any isWordChar = false ∧ after.head?.any isWordChar = false := by
  have hbegin : (word ++ after).head?.any isWordChar = true := by
    cases word with
    | nil => cases hfirst
    | cons c word => exact hfirst
  have hend : (word.reverse ++ before.reverse).head?.any isWordChar = true := by
    rw [← List.reverse_append, List.head?_reverse, getLast?_any_append_iff]
    exact .inl hlast
  rw [Cursor.atEdge_before_iff hbegin, Cursor.atEdge_after_iff hend, List.head?_reverse]

theorem getLast?_any_isWordChar_digits {digits : List Char}
    (h : digits ≠ [] ∧ ∀ c ∈ digits, isDigit c = true) :
    digits.getLast?.any isWordChar = true := by
  rw [List.getLast?_eq_some_getLast h.1]
  exact isWordChar_of_isDigit (h.2 _ (List.getLast_mem h.1))

theorem atEdges_year_iff {decade : List Char}
    (hdecade : decade.length = 2 ∧ ∀ c ∈ decade, isDigit c = true) (before after : List Char) :
    ((Cursor.mk before.reverse ("20".toList ++ decade ++ after)).atEdge = true ∧
        (Cursor.mk (("20".toList ++ decade).reverse ++ before.reverse) after).atEdge = true) ↔
      before.getLast?.any isWordChar = false ∧ after.head?.any isWordChar = false := by
  have hne : decade ≠ [] := List.ne_nil_of_length_pos (by omega)
  have hlast : ("20".toList ++ decade).getLast?.any isWordChar = true :=
    getLast?_any_append_iff.2 (.inl (getLast?_any_isWordChar_digits ⟨hne, hdecade.2⟩))
  have hcentury : isWordChar '2' = true := by decide
  have hfirst : ("20".toList ++ decade).head?.any isWordChar = true := hcentury
  exact atEdges_iff hfirst hlast before after

theorem yearAt_of_matchesAt {text before : List Char} {captures : Captures PeriodPart}
    (h : yearPattern.MatchesAt text before captures) :
    ∃ year, YearAt text before year ∧ captures = [(.year, ⟨before.length, year⟩)] := by
  obtain ⟨word, after, rfl, hword⟩ := h.exists_spells
  obtain ⟨decade, rfl, hdecade, hstart, hstop, rfl⟩ := spells_yearPattern.1 hword
  refine ⟨_, ⟨decade, after, rfl, rfl, hdecade,
    (atEdges_year_iff hdecade before after).1 ⟨hstart, hstop⟩⟩, ?_⟩
  rw [List.length_reverse]

/-- The quarter, with its year, that the first `q3 2026` of a text names. -/
def quarterNamed? (text : List Char) : Option (Nat × Nat) := do
  let m ← quarterPattern.find? text
  let quarter ← number? m .quarter
  let year ← number? m .year
  some (quarter, year)

/-- The year that the first `2026` of a text names. -/
def yearNamed? (text : List Char) : Option Nat := do
  let m ← yearPattern.find? text
  number? m .year

/-- The first year of a text, with its place. -/
def yearCapture? (text : List Char) : Option Capture := do
  let m ← yearPattern.find? text
  m.get? .year

/-- A year stands between characters that are no parts of words. -/
theorem exists_text_of_yearCapture? {text : List Char} {year : Capture}
    (h : yearCapture? text = some year) :
    ∃ before after : List Char, text = before ++ (year.text ++ after) ∧
      year.start = before.length ∧ (year.text ≠ [] ∧ ∀ c ∈ year.text, isDigit c = true) ∧
      before.getLast?.any isWordChar = false ∧ after.head?.any isWordChar = false := by
  rw [yearCapture?, Option.bind_eq_bind, Option.bind_eq_some_iff] at h
  obtain ⟨m, hm, hyear⟩ := h
  obtain ⟨before, captures, hfirst, rfl⟩ := find?_eq_some_iff_isFirst.1 hm
  obtain ⟨_, ⟨decade, after, rfl, rfl, ⟨-, hdecade⟩, hsides⟩, rfl⟩ := yearAt_of_matchesAt hfirst.1
  cases hyear
  have hcentury : ∀ c ∈ "20".toList, isDigit c = true := List.all_eq_true.1 (by decide)
  exact ⟨before, after, rfl, rfl,
    ⟨by simp, List.forall_mem_append.2 ⟨hcentury, hdecade⟩⟩, hsides⟩

theorem window?_quarterOfYear {mode : MatchMode} {text : List Char} {now : Instant}
    {quarter year : Nat} (h : quarterNamed? text = some (quarter, year)) :
    quarterOfYear.window? mode text now = quarterWindow? year quarter := by
  simp only [quarterNamed?, Option.bind_eq_bind, Option.bind_eq_some_iff, Option.some.injEq,
    Prod.mk.injEq] at h
  obtain ⟨m, hm, _, hquarter, _, hyear, rfl, rfl⟩ := h
  simp [window?, hm, hquarter, hyear]

theorem window?_calendarYear {mode : MatchMode} {text : List Char} {now : Instant} {year : Nat}
    (h : yearNamed? text = some year) :
    calendarYear.window? mode text now = yearWindow? year := by
  simp only [yearNamed?, Option.bind_eq_bind, Option.bind_eq_some_iff] at h
  obtain ⟨m, hm, hyear⟩ := h
  simp [window?, hm, hyear]

theorem isDigit_of_mem_padded {width n : Nat} : ∀ c ∈ padded width n, isDigit c = true :=
  (allDigits_padded width n).isDigit

theorem atEdge_padded {width n : Nat} (u : List Char) :
    (Cursor.mk ((u ++ padded width n).reverse) []).atEdge = true := by
  have hne : (padded width n).reverse ≠ [] := mt List.reverse_eq_nil_iff.1 (padded_ne_nil width n)
  obtain ⟨c, rest, hrest⟩ := List.exists_cons_of_ne_nil hne
  have hc : c ∈ padded width n := List.mem_reverse.1 (by rw [hrest]; exact List.mem_cons_self)
  have hword := isWordChar_of_isDigit (isDigit_of_mem_padded c hc)
  simp [Cursor.atEdge, List.reverse_append, hrest, hword]

/-- A quarter is named by the letter `q`, its number, a space, and its year in four digits. -/
theorem quarterNamed?_written {quarter year : Nat} (hquarter : 1 ≤ quarter ∧ quarter ≤ 4)
    (hyear : year ≤ 9999) :
    quarterNamed? ('q' :: quarter.digitChar :: ' ' :: padded 4 year) = some (quarter, year) := by
  have hdigit : ∀ quarter < 5, 1 ≤ quarter → isQuarterDigit quarter.digitChar = true ∧
      readNat [quarter.digitChar] = some quarter := by decide
  obtain ⟨hmember, hread⟩ := hdigit quarter (by omega) hquarter.1
  have hlength : (padded 4 year).length = 4 := by
    refine length_padded (by decide) ?_
    show year < 10000
    omega
  have hspells : quarterPattern.Spells []
      ('q' :: quarter.digitChar :: ([' '] ++ padded 4 year)) [] []
      [(.year, ⟨3, padded 4 year⟩), (.quarter, ⟨1, [quarter.digitChar]⟩)] := by
    refine spells_quarterPattern.2 ⟨quarter.digitChar, [' '], padded 4 year, rfl, hmember, ?_,
      ⟨hlength, isDigit_of_mem_padded⟩, ?_, ?_, rfl⟩
    · intro c hc
      rw [List.mem_singleton.1 hc]
      exact isBlank_space
    · show (false != isWordChar 'q') = true
      decide
    · rw [List.append_nil]
      exact atEdge_padded ['q', quarter.digitChar, ' ']
  have hfind := find?_of_spells quarterPattern_unambiguous hspells
  rw [List.append_nil] at hfind
  have hm : quarterPattern.find? ('q' :: quarter.digitChar :: ' ' :: padded 4 year) = some _ :=
    hfind
  have hlabel : (PeriodPart.quarter == PeriodPart.year) = false := by decide
  simp [quarterNamed?, hm, number?, Match.get?, List.lookup_cons, hlabel, hread, readNat_padded]

/-- A year from 2000 to 2099 is named by its four digits. -/
theorem yearNamed?_written {year : Nat} (hyear : 2000 ≤ year ∧ year ≤ 2099) :
    yearNamed? (padded 4 year) = some year := by
  have hcentury : ∀ n < 100, padded 4 (2000 + n) = "20".toList ++ padded 2 n ∧
      (padded 2 n).length = 2 := by decide +kernel
  obtain ⟨hsplit, hlength⟩ := hcentury (year - 2000) (by omega)
  rw [Nat.add_sub_cancel' hyear.1] at hsplit
  have hspells : yearPattern.Spells [] (padded 4 year) [] [] [(.year, ⟨0, padded 4 year⟩)] := by
    refine spells_yearPattern.2 ⟨padded 2 (year - 2000), hsplit,
      ⟨hlength, isDigit_of_mem_padded⟩, ?_, ?_, rfl⟩
    · rw [hsplit]
      show (false != isWordChar '2') = true
      decide
    · rw [List.append_nil]
      exact atEdge_padded []
  have hfind := find?_of_spells yearPattern_unambiguous hspells
  rw [List.append_nil] at hfind
  simp [yearNamed?, hfind, number?, Match.get?, readNat_padded]

end PeriodRule
end ReportPlan
