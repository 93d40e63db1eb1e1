import Mathlib.Logic.Basic
import ReportPlan.Proofs.Report.Texts
import ReportPlan.Proofs.Text.OneLine

/-! # Line breaks in summaries

A summary puts separators, numbers and days around the name of a report and the fields and texts of
its filters. None of what it puts there ends a line, so only the name, the fields and the texts
count.

* `isOneLine_render`, `isOneLine_dateText`: numbers and days.
* `Report.isOneLine_summary_iff`: the summary of any report.
* `isOneLine_title`: a name that is made of texts of one line.
-/

set_option autoImplicit false

namespace ReportPlan

open Text (isLineBreak isPlainDigit)

/-! ## Numbers and days -/

section Numerals

theorem AllDigits.isOneLine {s : List Char} (h : AllDigits s) : IsOneLine (String.ofList s) :=
  isOneLine_ofList.2 fun ch hch => Text.isLineBreak_of_isPlainDigit (h ch hch)

theorem mem_positionalText {l : Layout} {ds : List Char} (hds : AllDigits ds) {exponent : Int}
    {ch : Char} (h : ch ∈ l.positionalText ds exponent) :
    isPlainDigit ch = true ∨ ch = '.' ∨ ch ∈ l.wholeMark := by
  have hzeros : ∀ {n : Nat}, ch ∈ List.replicate n '0' → isPlainDigit ch = true := by
    intro n hch
    rw [List.eq_of_mem_replicate hch]
    decide
  unfold Layout.positionalText at h
  split at h
  · simp only [List.mem_append] at h
    rcases h with (h | h) | h
    · exact .inl (hds ch h)
    · exact .inl (hzeros h)
    · exact .inr (.inr h)
  · simp only at h
    split at h
    · rw [List.mem_append, List.mem_cons] at h
      rcases h with h | rfl | h
      · exact .inl (hds ch (List.mem_of_mem_take h))
      · exact .inr (.inl rfl)
      · exact .inl (hds ch (List.mem_of_mem_drop h))
    · rw [List.mem_cons, List.mem_cons, List.mem_append] at h
      rcases h with rfl | rfl | h | h
      · exact .inl (by decide)
      · exact .inr (.inl rfl)
      · exact .inl (hzeros h)
      · exact .inl (hds ch h)

/-- Numbers in summaries are positional throughout. -/
theorem exists_magnitudeText_eq (x : Binary64) :
    ∃ ds exponent, AllDigits ds ∧
      Operand.displayLayout.magnitudeText x = Operand.displayLayout.positionalText ds exponent := by
  unfold Layout.magnitudeText
  split
  · exact ⟨['0'], 0, List.forall_mem_singleton.2 (by decide), rfl⟩
  · exact ⟨_, _, allDigits_digits _, rfl⟩

theorem isOneLine_render (x : Binary64) :
    IsOneLine (String.ofList (Operand.displayLayout.render x)) := by
  refine isOneLine_ofList.2 fun ch hch => ?_
  unfold Layout.render at hch
  split at hch
  · rcases List.mem_append.1 hch with hsign | hmagnitude
    · split at hsign
      · rw [List.mem_singleton.1 hsign]
        decide
      · cases hsign
    · obtain ⟨ds, exponent, hds, htext⟩ := exists_magnitudeText_eq x
      rw [htext] at hmagnitude
      rcases mem_positionalText hds hmagnitude with hdigit | rfl | hmark
      · exact Text.isLineBreak_of_isPlainDigit hdigit
      · decide
      · cases hmark
  · have hinfinite : ∀ negative,
        IsOneLine (String.ofList (Operand.displayLayout.infinite negative)) := by decide
    exact isOneLine_ofList.1 (hinfinite _) ch hch

theorem isOneLine_dateText (d : Date) : IsOneLine (String.ofList d.text) := by
  have hdigits : ∀ width n, ∀ ch ∈ padded width n, isLineBreak ch = false := fun width n ch hch =>
    Text.isLineBreak_of_isPlainDigit (allDigits_padded width n ch hch)
  have hyear : ∀ ch ∈ yearText d.year, isLineBreak ch = false := by
    unfold yearText
    split
    · exact hdigits _ _
    · refine List.forall_mem_cons.2 ⟨?_, hdigits _ _⟩
      split <;> decide
  have hminus : isLineBreak '-' = false := by decide
  rw [isOneLine_ofList, Date.text]
  simp only [List.forall_mem_append, List.forall_mem_cons]
  exact ⟨⟨hyear, hminus, hdigits _ _⟩, hminus, hdigits _ _⟩

end Numerals

/-! ## Summaries of any report -/

theorem Operand.isOneLine_display_iff {o : Operand} :
    IsOneLine o.display ↔ ∀ s ∈ o.allTexts, IsOneLine s := by
  cases o with
  | number x => simp [display, allTexts, isOneLine_render]
  | text s => simp [display, allTexts]
  | texts items =>
    have hsep : IsOneLine ", " := by decide
    have hopen : IsOneLine "[" := by decide
    have hclose : IsOneLine "]" := by decide
    simp only [display, allTexts, isOneLine_append, isOneLine_intercalate hsep, hopen, hclose,
      true_and, and_true]

theorem Filter.isOneLine_display_iff {f : Filter} :
    IsOneLine f.display ↔ IsOneLine f.field ∧ ∀ s ∈ f.value.allTexts, IsOneLine s := by
  have hspace : IsOneLine " " := by decide
  have hoperator : IsOneLine f.operator.name := by cases f.operator <;> decide
  simp only [display, isOneLine_append, hspace, hoperator, and_true, Operand.isOneLine_display_iff]

theorem Window.isOneLine_display (w : Window) : IsOneLine w.display := by
  unfold display
  split
  · have hto : IsOneLine " → " := by decide
    simp only [isOneLine_append, isOneLine_dateText, hto, and_self]
  · decide

/-- What stands around the name, the fields and the texts of a report never ends the line. -/
theorem Report.isOneLine_summary_iff {r : Report} :
    IsOneLine r.summary ↔
      IsOneLine r.name ∧ (∀ f ∈ r.filters, IsOneLine f.field) ∧
        ∀ s ∈ textsOf r.filters, IsOneLine s := by
  have hbar : IsOneLine " | " := by decide
  have hsep : IsOneLine "; " := by decide
  have hfilters : IsOneLine (if r.filters.isEmpty then ""
        else " | " ++ "; ".intercalate (r.filters.map (·.display))) ↔
      (∀ f ∈ r.filters, IsOneLine f.field) ∧ ∀ s ∈ textsOf r.filters, IsOneLine s := by
    have hall : (∀ f ∈ r.filters, IsOneLine f.display) ↔
        (∀ f ∈ r.filters, IsOneLine f.field) ∧ ∀ s ∈ textsOf r.filters, IsOneLine s := by
      simp only [Filter.isOneLine_display_iff, textsOf, List.forall_mem_flatMap, forall₂_and]
    rw [← hall]
    split
    · rename_i hnil
      rw [List.isEmpty_iff.1 hnil]
      simp [IsOneLine]
    · rw [isOneLine_append, and_iff_right hbar, isOneLine_intercalate hsep, List.forall_mem_map]
  simp only [summary, isOneLine_append, hfilters, hbar, r.window.isOneLine_display, and_true]
  -- what is left is the limit
  refine and_iff_left ?_
  split
  · decide
  · rename_i n _
    have htop : IsOneLine " | top " := by decide
    exact isOneLine_append.2 ⟨htop, (allDigits_digits n).isOneLine⟩

theorem isOneLine_title {mode : MatchMode} {query : List Char} {type : ReportType}
    {filters : List Filter} (hfilters : ∀ s ∈ textsOf filters, IsOneLine s) {window : Window} :
    IsOneLine (title mode query type filters window) := by
  have hdash : IsOneLine " - " := by decide
  have hcomma : IsOneLine ", " := by decide
  unfold title
  split
  · decide
  · refine (isOneLine_intercalate hdash).2 fun part hpart => ?_
    rcases mem_titleParts hpart with hfixed | ⟨values, -, hvalues, rfl⟩
    · have hall : ∀ part ∈ fixedParts, IsOneLine part := by decide +kernel
      exact hall part hfixed
    · exact (isOneLine_intercalate hcomma).2 fun v hv => hfilters v (hvalues hv)

end ReportPlan
