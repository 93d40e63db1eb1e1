import ReportPlan.Proofs.Period.Phrases
import ReportPlan.Proofs.Report.Keywords

/-! # Reports that keep what another one found

A query with more words behind it, and a search that is not held to whole words, find every keyword
that was found before. Nothing that is read off keywords is lost then, and the ladders are left no
later, although the entities may be other ones and an earlier rule may give another window.

* `mem_filters_iff_of_entityField`, `mem_filters_iff_of_stateField`, `filter_thresholdFields`: the
  three blocks of filters, told by their fields.
* `RefinesTo`: what a report keeps of another one.
* `refinesTo_of_findsNoLess`: it keeps that much if nothing less is found.
* `refinesTo_append`: more words behind a query.
* `WidensTo`, `widensTo_substring`: matching anywhere instead of whole words.
-/

set_option autoImplicit false

namespace ReportPlan

/-! ## Blocks of filters -/

section Blocks

variable {c : Compiler} {text : List Char} {f : Filter}

theorem mem_filters_iff :
    f ∈ c.filters text ↔ (f ∈ entityFilters c.mode c.lexicon text ∨ f ∈ thresholds text) ∨
      f ∈ stateFilters c.mode text := by
  rw [c.filters_eq, List.mem_append, List.mem_append]

theorem field_mem_of_mem_entityFilters {mode : MatchMode} {l : Lexicon}
    (hf : f ∈ entityFilters mode l text) : f.field ∈ entityFields :=
  (entityFilters_sublist mode l text).subset (List.mem_map_of_mem hf)

theorem field_mem_of_mem_thresholds (hf : f ∈ thresholds text) : f.field ∈ thresholdFields :=
  (thresholds_sublist text).subset (List.mem_map_of_mem hf)

theorem not_mem_thresholdFields {field : String} (h : field ∈ entityFields) :
    field ∉ thresholdFields :=
  fun hthreshold => List.disjoint_of_nodup_append fields_disjoint.1 h hthreshold

theorem mem_filters_iff_of_entityField (hfield : f.field ∈ entityFields) :
    f ∈ c.filters text ↔ f ∈ entityFilters c.mode c.lexicon text := by
  have hstate := fields_disjoint.2 _ (List.mem_append_left thresholdFields hfield)
  rw [mem_filters_iff, or_iff_left (mt field_mem_of_mem_stateFilters hstate),
    or_iff_left (mt field_mem_of_mem_thresholds (not_mem_thresholdFields hfield))]

theorem mem_filters_iff_of_stateField (hfield : f.field ∈ allStateFilters.map (·.field)) :
    f ∈ c.filters text ↔ f ∈ stateFilters c.mode text := by
  rw [mem_filters_iff, or_iff_right]
  intro hblock
  refine fields_disjoint.2 f.field (List.mem_append.2 ?_) hfield
  exact hblock.imp field_mem_of_mem_entityFilters field_mem_of_mem_thresholds

theorem filter_thresholdFields (c : Compiler) (text : List Char) :
    (c.filters text).filter (fun f => decide (f.field ∈ thresholdFields)) = thresholds text := by
  have hentities : (entityFilters c.mode c.lexicon text).filter
      (fun f => decide (f.field ∈ thresholdFields)) = [] := by
    rw [List.filter_eq_nil_iff]
    intro f hf
    simpa using not_mem_thresholdFields (field_mem_of_mem_entityFilters hf)
  have hthresholds : (thresholds text).filter
      (fun f => decide (f.field ∈ thresholdFields)) = thresholds text := by
    rw [List.filter_eq_self]
    intro f hf
    simpa using field_mem_of_mem_thresholds hf
  have hstates : (stateFilters c.mode text).filter
      (fun f => decide (f.field ∈ thresholdFields)) = [] := by
    rw [List.filter_eq_nil_iff]
    intro f hf hfield
    have hblock := List.mem_append_right entityFields (of_decide_eq_true hfield)
    exact fields_disjoint.2 _ hblock (field_mem_of_mem_stateFilters hf)
  rw [c.filters_eq, List.filter_append, List.filter_append, hentities, hthresholds, hstates,
    List.nil_append, List.append_nil]

end Blocks

/-! ## Reports -/

/-- The rule that gives the window of a query, if one does. -/
def Compiler.rule? (c : Compiler) (query : String) (now : Instant) : Option PeriodRule :=
  (firedRule? c.mode (Text.normalize query.toList) now).map (·.1)

/-- What the report of a second query keeps of that of a first one: no ladder is left later, and
groupings, statistics, states, named columns, an order, and the fields of entities all remain. -/
structure RefinesTo (c : Compiler) (query : String) (c' : Compiler) (query' : String)
    (now : Instant) : Prop where
  reportType_rung : (c'.compile query' now).reportType.rung ≤ (c.compile query now).reportType.rung
  /-- An earlier rule may give another window; the same rule gives the same. -/
  window : ∀ rule, c.rule? query now = some rule →
    ∃ rule', c'.rule? query' now = some rule' ∧ rule'.rung ≤ rule.rung ∧
      (rule' = rule → (c'.compile query' now).window = (c.compile query now).window)
  groupBy : (c.compile query now).groupBy.getD [] ⊆ (c'.compile query' now).groupBy.getD []
  aggregations : (c.compile query now).aggregations ⊆ (c'.compile query' now).aggregations
  states : ∀ f ∈ (c.compile query now).filters, f.field = riskField ∨ f.field = settlementField →
    f ∈ (c'.compile query' now).filters
  /-- Default columns may go; those of keywords stay. -/
  metrics : (∃ e ∈ c.lexicon.metrics,
      c.mode.has (Text.normalize query.toList) e.surface = true) →
    (c.compile query now).metrics ⊆ (c'.compile query' now).metrics
  sortBy : ∀ s, (c.compile query now).sortBy = some s →
    ∃ s', (c'.compile query' now).sortBy = some s' ∧
      (s.direction = .ascending → s'.direction = .ascending)
  /-- A class of entities that is restricted stays so, perhaps to other values. -/
  entities : ∀ field ∈ entityFields, (∃ f ∈ (c.compile query now).filters, f.field = field) →
    ∃ f ∈ (c'.compile query' now).filters, f.field = field

theorem refinesTo_of_findsNoLess {l : Lexicon} (hl : l.Valid) {mode mode' : MatchMode}
    {query query' : String} {now : Instant}
    (h : FindsNoLess mode (Text.normalize query.toList) mode' (Text.normalize query'.toList))
    (hpatterns : ∀ (rule : PeriodRule) (w : Window), rule.phrases = [] →
      rule.window? mode (Text.normalize query.toList) now = some w →
        rule.window? mode' (Text.normalize query'.toList) now = some w) :
    RefinesTo ⟨l, mode⟩ query ⟨l, mode'⟩ query' now := by
  constructor
  · rw [Compiler.compile_reportType, Compiler.compile_reportType]
    exact h.rung_classify_le
  · intro rule hrule
    obtain ⟨⟨_, w⟩, hfired, rfl⟩ := Option.map_eq_some_iff.1 hrule
    obtain ⟨rule', w', hfired', hle, hsame⟩ :=
      exists_firedRule?_earlier (fun r v => h.window?_eq_some hpatterns) hfired
    refine ⟨rule', Option.map_eq_some_iff.2 ⟨_, hfired', rfl⟩, hle, fun heq => ?_⟩
    rw [Compiler.compile_window, Compiler.compile_window, windowIn, windowIn, hfired, hfired']
    exact hsame heq
  · rw [Compiler.compile_groupBy, Compiler.compile_groupBy]
    exact h.groupingIn_subset
  · rw [Compiler.compile_aggregations, Compiler.compile_aggregations]
    exact h.aggregationsIn_subset
  · intro f hf hfield
    -- the filter on active records is another matter: the word inactive takes it away
    have hstate : f.field ∈ allStateFilters.map (·.field) ∧ f.field ≠ lifecycleField := by
      rcases hfield with hfield | hfield <;> rw [hfield] <;> decide +kernel
    rw [Compiler.compile_filters, mem_filters_iff_of_stateField hstate.1] at hf ⊢
    exact h.mem_stateFilters hf hstate.2
  · rw [Compiler.compile_metrics, Compiler.compile_metrics]
    exact h.metricsIn_subset hl _ _
  · intro s hs
    rw [Compiler.compile_sortBy] at hs ⊢
    exact h.exists_sortIn hs
  · -- the values may be others, since a longer surface can hide those that were found
    rintro _ hfield ⟨f, hf, rfl⟩
    rw [Compiler.compile_filters, mem_filters_iff_of_entityField hfield] at hf
    obtain ⟨p, hp, hpf, s, hs, hhas⟩ := (exists_entityFilter_iff hl).1 ⟨f, hf, rfl⟩
    obtain ⟨f', hf', hff'⟩ := (exists_entityFilter_iff hl).2 ⟨p, hp, hpf, s, hs, h _ hhas⟩
    refine ⟨f', ?_, hff'⟩
    rw [Compiler.compile_filters, mem_filters_iff_of_entityField (by rw [hff']; exact hfield)]
    exact hf'

/-! ## More words -/

/-- More words behind a query only refine its report. -/
theorem refinesTo_append {x : Extension} {l : Lexicon} (h : Lexicon.extend x = .ok l)
    (mode : MatchMode) (query words : String) (now : Instant) :
    RefinesTo ⟨l, mode⟩ query ⟨l, mode⟩ (query ++ " " ++ words) now := by
  have hlonger : (query ++ " " ++ words).toList = query.toList ++ ' ' :: words.toList := by simp
  have hextends : Text.Extends (Text.normalize query.toList)
      (Text.normalize (query ++ " " ++ words).toList) := by
    rw [hlonger]
    exact Text.normalize_extends _ _
  refine refinesTo_of_findsNoLess (Lexicon.valid_of_extend h) (findsNoLess_of_extends mode hextends)
    fun rule w hphrases hw => ?_
  exact PeriodRule.window?_of_extends hextends hw (PeriodRule.phrases_eq_nil_iff.1 hphrases)

/-- A query on this month that goes on with another day, and a bank whose name is in the lexicon of
an operator. -/
theorem refinesTo_append_providus :
    ∃ l, Lexicon.extend { Extension.empty with counterparties := ["  Providus Bank "] } = .ok l ∧
      RefinesTo ⟨l, .wordBoundary⟩ "Providus Bank volume this month" ⟨l, .wordBoundary⟩
        ("Providus Bank volume this month" ++ " " ++ "or yesterday, by trader")
        (.startOf ⟨2026, 10, 19, by decide, by decide, by decide⟩) := by
  have h : Lexicon.extend { Extension.empty with counterparties := ["  Providus Bank "] } =
      .ok { Lexicon.builtin with
        counterparties := Lexicon.builtin.counterparties ++ ["providus bank"] } := rfl
  exact ⟨_, h, refinesTo_append h _ _ _ _⟩

/-! ## Matching anywhere -/

/-- What the report of one compiler keeps of that of a stricter one, for the same query. -/
structure WidensTo (c c' : Compiler) (query : String) (now : Instant) : Prop extends
    RefinesTo c query c' query now where
  allStates : ∀ f ∈ (c.compile query now).filters,
    f.field = riskField ∨ f.field = settlementField ∨ f.field = lifecycleField →
      f ∈ (c'.compile query now).filters
  keywordMetrics : ∀ e ∈ c.lexicon.metrics,
    c.mode.has (Text.normalize query.toList) e.surface = true →
      e.value ⊆ (c'.compile query now).metrics
  thresholds : (c'.compile query now).filters.filter (fun f => decide (f.field ∈ thresholdFields)) =
    (c.compile query now).filters.filter (fun f => decide (f.field ∈ thresholdFields))
  limit : (c'.compile query now).limit = (c.compile query now).limit

/-- Matching anywhere instead of whole words only widens the report of a query. -/
theorem widensTo_substring {x : Extension} {l : Lexicon} (h : Lexicon.extend x = .ok l)
    (query : String) (now : Instant) :
    WidensTo ⟨l, .wordBoundary⟩ ⟨l, .substring⟩ query now := by
  have hl : l.Valid := Lexicon.valid_of_extend h
  have hfinds := findsNoLess_substring .wordBoundary (Text.normalize query.toList)
  have hpatterns : ∀ (rule : PeriodRule) (w : Window), rule.phrases = [] →
      rule.window? .wordBoundary (Text.normalize query.toList) now = some w →
        rule.window? .substring (Text.normalize query.toList) now = some w := by
    intro rule w hphrases hw
    rcases PeriodRule.phrases_eq_nil_iff.1 hphrases with rfl | rfl | rfl <;> exact hw
  constructor
  · exact refinesTo_of_findsNoLess hl hfinds hpatterns
  · intro f hf hfield
    have hstate : f.field ∈ allStateFilters.map (·.field) := by
      rcases hfield with hfield | hfield | hfield <;> rw [hfield] <;> decide +kernel
    rw [Compiler.compile_filters, mem_filters_iff_of_stateField hstate] at hf ⊢
    exact stateFilters_subset_substring _ _ hf
  · intro e he hhas
    rw [Compiler.compile_metrics]
    exact subset_metricsIn hl _ he (hfinds _ hhas)
  · rw [Compiler.compile_filters, Compiler.compile_filters, filter_thresholdFields,
      filter_thresholdFields]
  · rw [Compiler.compile_limit, Compiler.compile_limit]

/-- A query with a bank that an operator has added, and with words that only matching anywhere finds
others in. -/
theorem widensTo_substring_providus :
    ∃ l, Lexicon.extend { Extension.empty with counterparties := ["  Providus Bank "] } = .ok l ∧
      WidensTo ⟨l, .wordBoundary⟩ ⟨l, .substring⟩ "Providus Bank volumes, unsettled, above 2m"
        (.startOf ⟨2026, 10, 19, by decide, by decide, by decide⟩) := by
  have h : Lexicon.extend { Extension.empty with counterparties := ["  Providus Bank "] } =
      .ok { Lexicon.builtin with
        counterparties := Lexicon.builtin.counterparties ++ ["providus bank"] } := rfl
  exact ⟨_, h, widensTo_substring h _ _⟩

end ReportPlan
