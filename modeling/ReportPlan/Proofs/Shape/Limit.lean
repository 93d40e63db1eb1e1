import ReportPlan.Proofs.Pattern.Spelling
import ReportPlan.Proofs.Text.Runs
import ReportPlan.Shape

/-! # Row limits as they are written

A row limit is a number behind the word `top` or, if there is none, behind the word `first`. The
place of the word counts, and not what stands before it; of the digits behind it all are read.

* `CountAt`: a word and a numeral stand at a place of a text.
* `exists_matchesAt_of_countAt`, `exists_countAt_of_matchesAt`: the pattern for a count matches
  there and nowhere else, and captures the numeral.
* `exists_text_of_matchesAt`: the numeral is captured with its place, and all of it.
* `LimitFrom`: the limit that a text names first.
* `limitIn_eq_some_iff`: it is the limit that is found.
* `limitCapture?`: the numeral that a limit is read off, with its place.
-/

set_option autoImplicit false

namespace ReportPlan

open Pattern Text

/-- Behind the characters `before`, a text has a word, a gap and a numeral, which no further digit
continues. -/
def CountAt (s : String) (text before numeral : List Char) : Prop :=
  ∃ gap after, text = before ++ (s.toList ++ (gap ++ (numeral ++ after))) ∧
    (gap ≠ [] ∧ ∀ c ∈ gap, isBlank c = true) ∧
    (numeral ≠ [] ∧ ∀ c ∈ numeral, isDigit c = true) ∧ after.head?.any isDigit = false

theorem spells_countAfter {s : String} {before word after : List Char} {captures : Captures Unit} :
    (countAfter s).Spells before word after [] captures ↔
      ∃ gap numeral : List Char, word = s.toList ++ (gap ++ numeral) ∧
        (gap ≠ [] ∧ ∀ c ∈ gap, isBlank c = true) ∧
        (numeral ≠ [] ∧ ∀ c ∈ numeral, isDigit c = true) ∧
        captures = [((), ⟨before.length + s.toList.length + gap.length, numeral⟩)] := by
  simp only [countAfter, Pattern.gap, digitRun, spells_append_assoc, spells_word_append,
    spells_several_append, spells_capture, spells_several]
  constructor
  · rintro ⟨_, rfl, gap, numeral, rfl, hgap, _, ⟨hnumeral, rfl⟩, rfl⟩
    refine ⟨gap, numeral, rfl, hgap, hnumeral, ?_⟩
    simp
    omega
  · rintro ⟨gap, numeral, rfl, hgap, hnumeral, rfl⟩
    refine ⟨_, rfl, gap, numeral, rfl, hgap, _, ⟨hnumeral, rfl⟩, ?_⟩
    simp
    omega

/-- All digits behind the gap are captured. -/
theorem matchesAt_countAfter {s : String} {before gap numeral after : List Char}
    (hgap : gap ≠ [] ∧ ∀ c ∈ gap, isBlank c = true)
    (hnumeral : numeral ≠ [] ∧ ∀ c ∈ numeral, isDigit c = true)
    (hafter : after.head?.any isDigit = false) :
    (countAfter s).MatchesAt (before ++ (s.toList ++ (gap ++ (numeral ++ after)))) before
      [((), ⟨before.length + s.toList.length + gap.length, numeral⟩)] := by
  refine ⟨_, rfl, ?_⟩
  rw [matchAt?, countAfter, run_append, run_append, run_word]
  refine run_several_of_last hgap (head?_any_isBlank_digits hnumeral) ?_
  refine run_several_of_last hnumeral hafter ?_
  simp [Cursor.capture, Cursor.position]
  omega

theorem exists_matchesAt_of_countAt {s : String} {text before numeral : List Char}
    (h : CountAt s text before numeral) :
    ∃ start, (countAfter s).MatchesAt text before [((), ⟨start, numeral⟩)] := by
  obtain ⟨gap, after, rfl, hgap, hnumeral, hafter⟩ := h
  exact ⟨_, matchesAt_countAfter hgap hnumeral hafter⟩

/-- Where a count is matched, its numeral is captured up to a character that is no digit. -/
theorem exists_text_of_matchesAt {s : String} {text before : List Char}
    {captures : Captures Unit} (h : (countAfter s).MatchesAt text before captures) :
    ∃ gap numeral after : List Char,
      text = before ++ (s.toList ++ (gap ++ (numeral ++ after))) ∧
      (gap ≠ [] ∧ ∀ c ∈ gap, isBlank c = true) ∧
      (numeral ≠ [] ∧ ∀ c ∈ numeral, isDigit c = true) ∧ after.head?.any isDigit = false ∧
      captures = [((), ⟨before.length + s.toList.length + gap.length, numeral⟩)] := by
  obtain ⟨word, after, htext, hword⟩ := h.exists_spells
  obtain ⟨gap, digits, rfl, hgap, hdigits, -⟩ := spells_countAfter.1 hword
  -- what is spelled may stop short of the last digit, what is matched does not
  obtain ⟨c, digits, rfl⟩ := List.exists_cons_of_ne_nil hdigits.1
  obtain ⟨numeral, rest, hrun, hnumeral, hrest⟩ :=
    exists_run (hdigits.2 c List.mem_cons_self) (digits ++ after)
  have hsplit : text = before ++ (s.toList ++ (gap ++ (numeral ++ rest))) := by
    rw [← hrun, htext, List.append_assoc, List.append_assoc, List.cons_append]
  refine ⟨gap, numeral, rest, hsplit, hgap, hnumeral, hrest, h.unique ?_⟩
  rw [hsplit]
  exact matchesAt_countAfter hgap hnumeral hrest

theorem exists_countAt_of_matchesAt {s : String} {text before : List Char}
    {captures : Captures Unit} (h : (countAfter s).MatchesAt text before captures) :
    ∃ start numeral, CountAt s text before numeral ∧ captures = [((), ⟨start, numeral⟩)] := by
  obtain ⟨gap, numeral, after, htext, hgap, hnumeral, hafter, hcaptures⟩ :=
    exists_text_of_matchesAt h
  exact ⟨_, numeral, ⟨gap, after, htext, hgap, hnumeral, hafter⟩, hcaptures⟩

/-! ## Limits -/

theorem find?_countAfter_eq_none_iff {s : String} {text : List Char} :
    (countAfter s).find? text = none ↔ ∀ before numeral, ¬CountAt s text before numeral := by
  rw [find?_eq_none_iff]
  constructor
  · intro hnone before numeral h
    obtain ⟨start, hmatches⟩ := exists_matchesAt_of_countAt h
    exact hnone _ _ hmatches
  · intro hnone before captures h
    obtain ⟨start, numeral, hcount, -⟩ := exists_countAt_of_matchesAt h
    exact hnone _ _ hcount

/-- A place has one numeral behind a word, and a text one first place. -/
theorem numeral_unique_of_isFirst {s : String} {text before before' numeral numeral' : List Char}
    (h : IsFirst (CountAt s text) before numeral)
    (h' : IsFirst (CountAt s text) before' numeral') : numeral = numeral' := by
  obtain ⟨start, rest, htext, hm⟩ := exists_matchesAt_of_countAt h.1
  obtain ⟨start', rest', htext', hm'⟩ := exists_matchesAt_of_countAt h'.1
  have hlength : before.length = before'.length :=
    Nat.le_antisymm (h.2 _ _ h'.1) (h'.2 _ _ h.1)
  obtain ⟨rfl, rfl⟩ := List.append_inj (htext.symm.trans htext') hlength
  rw [hm] at hm'
  cases hm'
  rfl

/-- The numeral of the first count behind a word. -/
def numeralAfter? (s : String) (text : List Char) : Option (List Char) :=
  ((countAfter s).find? text).bind fun m => (m.get? ()).map (·.text)

theorem exists_numeralAfter?_of_find? {s : String} {text : List Char} {m : Match Unit}
    (h : (countAfter s).find? text = some m) :
    ∃ before numeral, IsFirst (CountAt s text) before numeral ∧
      numeralAfter? s text = some numeral := by
  rw [numeralAfter?, h]
  obtain ⟨before, captures, hfirst, rfl⟩ := find?_eq_some_iff_isFirst.1 h
  obtain ⟨start, numeral, hcount, rfl⟩ := exists_countAt_of_matchesAt hfirst.1
  refine ⟨before, numeral, hfirst.of_stands hcount fun before' numeral' hcount' => ?_, rfl⟩
  obtain ⟨start', hmatches⟩ := exists_matchesAt_of_countAt hcount'
  exact ⟨_, hmatches⟩

theorem numeralAfter?_eq_some_iff {s : String} {text numeral : List Char} :
    numeralAfter? s text = some numeral ↔ ∃ before, IsFirst (CountAt s text) before numeral := by
  cases hfind : (countAfter s).find? text with
  | none =>
    rw [numeralAfter?, hfind]
    constructor
    · intro h
      cases h
    · rintro ⟨before, hcount, -⟩
      exact absurd hcount (find?_countAfter_eq_none_iff.1 hfind before numeral)
  | some m =>
    obtain ⟨before, numeral', hfirst, hnumeral'⟩ := exists_numeralAfter?_of_find? hfind
    rw [hnumeral', Option.some.injEq]
    constructor
    · rintro rfl
      exact ⟨before, hfirst⟩
    · rintro ⟨before', hfirst'⟩
      exact numeral_unique_of_isFirst hfirst hfirst'

theorem numeralAfter?_eq_none_iff {s : String} {text : List Char} :
    numeralAfter? s text = none ↔ ∀ before numeral, ¬CountAt s text before numeral := by
  rw [← find?_countAfter_eq_none_iff]
  constructor
  · intro hnone
    rw [Option.eq_none_iff_forall_ne_some]
    intro m hm
    obtain ⟨before, numeral, -, hnumeral⟩ := exists_numeralAfter?_of_find? hm
    rw [hnone] at hnumeral
    cases hnumeral
  · intro hnone
    rw [numeralAfter?, hnone]
    rfl

theorem limitIn_eq (text : List Char) :
    limitIn text =
      ((numeralAfter? "top" text).or (numeralAfter? "first" text)).bind limitOfNumeral? := by
  have hread : ∀ (s : String) (m : Match Unit), (countAfter s).find? text = some m →
      ∃ c, m.get? () = some c ∧ numeralAfter? s text = some c.text := by
    intro s m hm
    obtain ⟨before, numeral, -, hnumeral⟩ := exists_numeralAfter?_of_find? hm
    rw [numeralAfter?, hm, Option.bind_some] at hnumeral
    obtain ⟨c, hc, rfl⟩ := Option.map_eq_some_iff.1 hnumeral
    exact ⟨c, hc, by simp [numeralAfter?, hm, hc]⟩
  cases htop : (countAfter "top").find? text with
  | some m =>
    obtain ⟨c, hc, hnumeral⟩ := hread "top" m htop
    simp [limitIn, htop, hc, hnumeral]
  | none =>
    have hnone : numeralAfter? "top" text = none := by simp [numeralAfter?, htop]
    cases hfirst : (countAfter "first").find? text with
    | some m =>
      obtain ⟨c, hc, hnumeral⟩ := hread "first" m hfirst
      simp [limitIn, htop, hfirst, hc, hnone, hnumeral]
    | none => simp [limitIn, htop, hfirst, numeralAfter?]

/-- The numeral that a row limit is read off, with its place. -/
def limitCapture? (text : List Char) : Option Capture := do
  let m ← ((countAfter "top").find? text).orElse fun _ => (countAfter "first").find? text
  m.get? ()

theorem limitIn_eq_bind (text : List Char) :
    limitIn text = (limitCapture? text).bind fun numeral => limitOfNumeral? numeral.text := by
  simp [limitIn, limitCapture?, Option.bind_assoc]

/-- The numeral of a row limit stands behind a gap, and all its digits are captured. -/
theorem exists_text_of_limitCapture? {text : List Char} {numeral : Capture}
    (h : limitCapture? text = some numeral) :
    ∃ before gap after : List Char, text = (before ++ gap) ++ (numeral.text ++ after) ∧
      numeral.start = (before ++ gap).length ∧ (gap ≠ [] ∧ ∀ c ∈ gap, isBlank c = true) ∧
      (∀ c ∈ numeral.text, isDigit c = true) ∧ after.head?.any isDigit = false := by
  rw [limitCapture?, Option.bind_eq_bind, Option.bind_eq_some_iff] at h
  obtain ⟨m, hm, hnumeral⟩ := h
  obtain ⟨s, hfind⟩ : ∃ s, (countAfter s).find? text = some m := by
    rw [Option.orElse_eq_or, Option.or_eq_some_iff] at hm
    rcases hm with htop | ⟨-, hfirst⟩
    · exact ⟨"top", htop⟩
    · exact ⟨"first", hfirst⟩
  obtain ⟨before, captures, hfirst, rfl⟩ := find?_eq_some_iff_isFirst.1 hfind
  obtain ⟨gap, digits, after, rfl, hgap, hdigits, hafter, rfl⟩ := exists_text_of_matchesAt hfirst.1
  cases hnumeral
  exact ⟨before ++ s.toList, gap, after, by simp, by simp [Nat.add_assoc], hgap, hdigits.2, hafter⟩

end ReportPlan
