import ReportPlan.Proofs.Report.Dependence
import ReportPlan.Proofs.Report.Refinement

/-! # Labels and rules

The window of a report is found on the ladder of rules, and its label on a ladder of phrases that
knows nothing of the rules. They agree on a query in normal form, because the phrases stand in the
order of their rules, and a rule whose phrase stands in the text is left without a window at the
edges of the calendar only.

* `PeriodRule.window?_eq_none_of_firedRule?`: the rules above the one that fires have no window.
* `PeriodRule.has_eq_false_of_firedRule?`: their phrases do not stand in the text.
* `PeriodRule.label?`: the label that a rule calls for.
* `windowLabel_of_firedRule?`: it is the label that is found.
* `Compiler.name_of_label?`: it ends the name of the report.
-/

set_option autoImplicit false

namespace ReportPlan

namespace PeriodRule

variable {mode : MatchMode} {text : List Char} {now : Instant} {rule rule' : PeriodRule}
  {w : Window}

/-! ## Rules above the one that fires -/

theorem window?_eq_none_of_firedRule? (h : firedRule? mode text now = some (rule, w))
    (habove : rule'.rung < rule.rung) : rule'.window? mode text now = none := by
  obtain ⟨above, r, below, hall, hr, hnone⟩ := List.findSome?_eq_some_iff.1 h
  obtain ⟨_, -, heq⟩ := Option.map_eq_some_iff.1 hr
  cases heq
  have hmem : rule' ∈ above := by
    refine Decidable.byContradiction fun hnot => ?_
    rw [rung, rung, hall, List.idxOf_append_of_notMem hnot, List.idxOf_append] at habove
    split at habove
    · have hlt := List.idxOf_lt_length_of_mem ‹_›
      omega
    · rw [List.idxOf_cons_self] at habove
      omega
  exact Option.map_eq_none_iff.1 (hnone rule' hmem)

/-- An instant with neighbours in the calendar on both sides, a year away. -/
theorem not_atEdge (hyear : firstYear < now.date.year ∧ now.date.year < lastYear)
    (rule : PeriodRule) : ¬rule.AtEdge now := by
  cases rule <;> simp only [AtEdge, not_false_eq_true] <;> omega

theorem has_eq_false_of_firedRule? (hyear : firstYear < now.date.year ∧ now.date.year < lastYear)
    (h : firedRule? mode text now = some (rule, w)) (habove : rule'.rung < rule.rung)
    {phrase : String} (hphrase : phrase ∈ rule'.phrases) : mode.has text phrase = false := by
  rw [← Bool.not_eq_true]
  intro hhas
  have hany : mode.hasAny text rule'.phrases = true := List.any_eq_true.2 ⟨phrase, hphrase, hhas⟩
  exact not_atEdge hyear rule'
    ((window?_eq_none_iff hany).1 (window?_eq_none_of_firedRule? h habove))

/-! ## Labels -/

/-- The label of the window that a rule gives. The year so far has one if it is named as this year,
and the rules on single days, numbers of days and quarters by number have none. -/
def label? (mode : MatchMode) (text : List Char) : PeriodRule → Option String
  | thisMonth => some "This Month"
  | lastMonth => some "Last Month"
  | thisQuarter => some "This Quarter"
  | thisYear => if mode.has text "this year" then some "This Year" else none
  | calendarYear => some otherWindowLabel
  | _ => none

end PeriodRule

open PeriodRule

section Labels

variable {mode : MatchMode} {text : List Char} {now : Instant} {rule : PeriodRule} {w : Window}
  {label : String}

/-- The phrase of a rule is the first one of the labels that stands in the text. -/
theorem windowLabel_of_firedRule? (hyear : firstYear < now.date.year ∧ now.date.year < lastYear)
    (h : firedRule? mode text now = some (rule, w)) (hlabel : rule.label? mode text = some label) :
    windowLabel mode text = label := by
  have hwindow := window?_of_firedRule? h
  have hmonth : PeriodRule.thisMonth.rung < rule.rung → mode.has text "this month" = false :=
    fun habove => has_eq_false_of_firedRule? hyear h habove (by decide)
  have hlast : PeriodRule.lastMonth.rung < rule.rung → mode.has text "last month" = false :=
    fun habove => has_eq_false_of_firedRule? hyear h habove (by decide)
  have hquarter : PeriodRule.thisQuarter.rung < rule.rung → mode.has text "this quarter" = false :=
    fun habove => has_eq_false_of_firedRule? hyear h habove (by decide)
  have hthis : PeriodRule.thisYear.rung < rule.rung → mode.has text "this year" = false :=
    fun habove => has_eq_false_of_firedRule? hyear h habove (by decide)
  cases rule with
  | thisMonth =>
    have hhas : mode.has text "this month" = true := (given_eq_some_iff.1 hwindow).1
    cases hlabel
    simp [windowLabel, windowLabels, hhas]
  | lastMonth =>
    have hhas : mode.has text "last month" = true := (given_eq_some_iff.1 hwindow).1
    cases hlabel
    simp [windowLabel, windowLabels, hhas, hmonth (by decide)]
  | thisQuarter =>
    have hhas : mode.has text "this quarter" = true := (given_eq_some_iff.1 hwindow).1
    cases hlabel
    simp [windowLabel, windowLabels, hhas, hmonth (by decide), hlast (by decide)]
  | thisYear =>
    obtain ⟨hhas, rfl⟩ : mode.has text "this year" = true ∧ "This Year" = label := by
      simpa [label?] using hlabel
    simp [windowLabel, windowLabels, hhas, hmonth (by decide), hlast (by decide),
      hquarter (by decide)]
  | calendarYear =>
    cases hlabel
    simp [windowLabel, windowLabels, hmonth (by decide), hlast (by decide), hquarter (by decide),
      hthis (by decide)]
  | today => cases hlabel
  | yesterday => cases hlabel
  | lastDays => cases hlabel
  | quarterOfYear => cases hlabel

end Labels

/-- The name of a report ends with the label that its rule calls for, if the query is in normal form
and the present is not in the first or the last year of the calendar. -/
theorem Compiler.name_of_label? {c : Compiler} {query : String} {now : Instant} {rule : PeriodRule}
    {label : String} (hquery : query.normalize = query)
    (hyear : -262142 ≤ now.date.year ∧ now.date.year ≤ 262141)
    (hrule : c.rule? query now = some rule)
    (hlabel : rule.label? c.mode query.toList = some label) :
    (c.compile query now).name = " - ".intercalate
      (titleStem (c.compile query now).reportType (c.compile query now).filters ++ [label]) := by
  have htext : Text.normalize query.toList = query.toList := by
    have htoList := congrArg String.toList hquery
    rwa [String.normalize, String.toList_ofList] at htoList
  obtain ⟨⟨_, w⟩, hfired, rfl⟩ := Option.map_eq_some_iff.1 hrule
  rw [htext] at hfired
  have hinside : firstYear < now.date.year ∧ now.date.year < lastYear := by
    unfold firstYear lastYear
    omega
  have hwindow : windowIn c.mode query.toList now = w := by rw [windowIn, hfired]
  have hbounded : w.isAllTime = false := by
    obtain ⟨start, stop, rfl, -⟩ := ordered_of_window? (window?_of_firedRule? hfired)
    rfl
  rw [compile_name, compile_reportType, compile_filters, htext, hwindow,
    title_of_window hbounded, windowLabel_of_firedRule? hinside hfired hlabel]

/-- At the beginning of the second year of the calendar, last month is in the first one. -/
theorem Compiler.name_of_label?_lastMonth :
    "uba volume last month, not this year or 2024".normalize =
        "uba volume last month, not this year or 2024" ∧
      Compiler.rule? ⟨.builtin, .wordBoundary⟩ "uba volume last month, not this year or 2024"
          (.startOf ⟨-262142, 1, 1, by decide, by decide, by decide⟩) = some .lastMonth ∧
      ∃ stem, (Compiler.compile ⟨.builtin, .wordBoundary⟩
          "uba volume last month, not this year or 2024"
          (.startOf ⟨-262142, 1, 1, by decide, by decide, by decide⟩)).name =
        " - ".intercalate (stem ++ ["Last Month"]) := by
  have hquery : "uba volume last month, not this year or 2024".normalize =
      "uba volume last month, not this year or 2024" := by decide +kernel
  have hrule : Compiler.rule? ⟨.builtin, .wordBoundary⟩
      "uba volume last month, not this year or 2024"
      (.startOf ⟨-262142, 1, 1, by decide, by decide, by decide⟩) = some .lastMonth := by
    decide +kernel
  exact ⟨hquery, hrule, _, Compiler.name_of_label? hquery (by decide) hrule rfl⟩

end ReportPlan
