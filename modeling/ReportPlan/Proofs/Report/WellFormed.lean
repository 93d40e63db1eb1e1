import ReportPlan.Config.Basic
import ReportPlan.Proofs.Lexicon.Validity
import ReportPlan.Proofs.Report.Texts

/-! # Compiled reports are well formed

Whatever lexicon an operator configures, the report of every query keeps the promises that its
readers rely on.

* `Filter.Agrees`: the operator of a filter agrees with its operand.
* `InBlocks`: filters on entities, then thresholds, then states, each block in its own order.
* `Report.WellFormed`: all promises together.
* `compile_wellFormed`: reports of accepted configurations keep them.
-/

set_option autoImplicit false

namespace ReportPlan

/-! ## The promises -/

/-- The operators of compiled filters and the operands that they come with. -/
inductive Filter.Agrees : Filter → Prop
  /-- Equality with one text. -/
  | equals {field s : String} (h : s.isBlankText = false) : Agrees ⟨field, .equals, .text s⟩
  /-- Membership in a list of several texts. -/
  | oneOf {field : String} {items : List String} (hlength : 2 ≤ items.length)
      (hdistinct : items.Nodup) (h : ∀ s ∈ items, s.isBlankText = false) :
      Agrees ⟨field, .oneOf, .texts items⟩
  /-- Comparison with a number that is not infinite. -/
  | greaterThan {field : String} {x : Binary64} (h : x.isFinite = true) :
      Agrees ⟨field, .greaterThan, .number x⟩
  | lessThan {field : String} {x : Binary64} (h : x.isFinite = true) :
      Agrees ⟨field, .lessThan, .number x⟩

/-- The fields of entities, in the order of their filters. -/
def entityFields : List String :=
  ["counterparty", "product_type", "trader", "desk"]

/-- The fields of thresholds, in the order of their filters. -/
def thresholdFields : List String :=
  ["amount_ngn", "current_exposure", "utilization_pct"]

/-- All filters on states, in their order. -/
def allStateFilters : List Filter :=
  [.equals "risk_category" "High", .equals "risk_category" "Medium", .equals "risk_category" "Low",
   .equals "settlement_status" "Settled", .equals "settlement_status" "Pending",
   .equals "settlement_status" "Failed", .equals "status" "Active"]

/-- Three blocks of filters. Within the first two each field occurs at most once. -/
def InBlocks (filters : List Filter) : Prop :=
  ∃ entities thresholds states : List Filter, filters = entities ++ thresholds ++ states ∧
    (entities.map (·.field)).Sublist entityFields ∧
    (thresholds.map (·.field)).Sublist thresholdFields ∧
    states.Sublist allStateFilters

/-- What the readers of the report of a normalized query rely on. -/
structure Report.WellFormed (c : Compiler) (text : List Char) (r : Report) : Prop where
  filters_inBlocks : InBlocks r.filters
  filters_agree : ∀ f ∈ r.filters, f.Agrees
  metrics_nodup : r.metrics.Nodup
  metrics_eq_nil : r.metrics = [] →
    r.reportType = .generic ∧ ∀ e ∈ c.lexicon.metrics, c.mode.has text e.surface = false
  groupBy_nodup : ∀ fields, r.groupBy = some fields → fields ≠ [] ∧ fields.Nodup
  limit_pos : ∀ n, r.limit = some n → 1 ≤ n.val
  /-- Statistics stand in their fixed order, each at most once. -/
  aggregations_sublist : r.aggregations.Sublist Aggregation.all
  name_not_blank : r.name.isBlankText = false

/-! ## Values of entities -/

section Entities

variable {mode : MatchMode} {l : Lexicon} {text : List Char}

theorem isBlankText_of_mem_counterpartiesIn (hl : l.Valid) {v : String}
    (hv : v ∈ counterpartiesIn mode l text) : v.isBlankText = false := by
  obtain ⟨s, hs, -, rfl⟩ := exists_of_mem_counterpartiesIn hv
  exact String.isBlankText_titleCase (hl.counterparties s hs)

theorem isBlankText_of_mem_productsIn (hl : l.Valid) {v : String}
    (hv : v ∈ productsIn mode l text) : v.isBlankText = false := by
  obtain ⟨e, he, -, hvalue⟩ := exists_of_mem_productsIn hv
  exact (hl.products e he).2 v hvalue

theorem isBlankText_of_mem_namesIn {table : List (Entry String)}
    (htable : ∀ e ∈ table, e.value.isBlankText = false) {v : String}
    (hv : v ∈ namesIn mode table text) : v.isBlankText = false := by
  obtain ⟨e, he, -, rfl⟩ := exists_of_mem_namesIn hv
  exact htable e he

/-- One value makes an equality, and more make a membership. -/
theorem Filter.agrees_of_anyOf? {field : String} {values : List String} {f : Filter}
    (h : anyOf? field values = some f) (hdistinct : values.Nodup)
    (hvalues : ∀ v ∈ values, v.isBlankText = false) : f.Agrees := by
  match values with
  | [] => cases h
  | [v] =>
    cases h
    exact .equals (hvalues v (by simp))
  | v :: w :: rest =>
    cases h
    exact .oneOf (by simp) hdistinct hvalues

theorem agrees_of_mem_entityFilters (hl : l.Valid) {f : Filter}
    (hf : f ∈ entityFilters mode l text) : f.Agrees := by
  simp only [entityFilters, List.mem_filterMap, List.mem_cons, List.not_mem_nil, or_false, id] at hf
  obtain ⟨o, ho, rfl⟩ := hf
  rcases ho with h | h | h | h
  · exact Filter.agrees_of_anyOf? h.symm (nodup_eraseDups _)
      fun v hv => isBlankText_of_mem_counterpartiesIn hl hv
  · exact Filter.agrees_of_anyOf? h.symm (nodup_eraseDups _)
      fun v hv => isBlankText_of_mem_productsIn hl hv
  · exact Filter.agrees_of_anyOf? h.symm (nodup_eraseDups _)
      fun v hv => isBlankText_of_mem_namesIn hl.traders hv
  · exact Filter.agrees_of_anyOf? h.symm (nodup_eraseDups _)
      fun v hv => isBlankText_of_mem_namesIn hl.desks hv

end Entities

/-! ## Thresholds and states -/

theorem isFinite_of_value? {metric : Metric} {numeral : List Char} {suffix : Option String}
    {x : Binary64} (h : Threshold.value? metric numeral suffix = some x) : x.isFinite = true := by
  simp only [Threshold.value?, Option.bind_eq_bind, Option.bind_eq_some_iff] at h
  obtain ⟨y, -, hy⟩ := h
  rw [Option.ite_none_right_eq_some, Option.some.injEq] at hy
  obtain ⟨hfinite, rfl⟩ := hy
  exact hfinite

theorem agrees_of_threshold? {text : List Char} {metric : Metric} {f : Filter}
    (h : threshold? text metric = some f) : f.Agrees := by
  simp only [threshold?, Option.bind_eq_bind, Option.bind_eq_some_iff, Option.some.injEq] at h
  obtain ⟨m, -, comparator, -, numeral, -, x, hx, rfl⟩ := h
  split
  · exact .lessThan (isFinite_of_value? hx)
  · exact .greaterThan (isFinite_of_value? hx)

theorem stateFilters_sublist (mode : MatchMode) (text : List Char) :
    (stateFilters mode text).Sublist allStateFilters := by
  have hkeywords : ((stateKeywords.filter fun k => mode.has text k.keyword).map fun k =>
      Filter.equals k.field k.value).Sublist
        (stateKeywords.map fun k => Filter.equals k.field k.value) :=
    List.filter_sublist.map _
  have hactive : (if asksForActive mode text then [Filter.equals lifecycleField "Active"]
      else []).Sublist [Filter.equals lifecycleField "Active"] := by
    split
    · exact List.Sublist.refl _
    · exact List.nil_sublist _
  exact hkeywords.append hactive

theorem agrees_of_mem_allStateFilters {f : Filter} (hf : f ∈ allStateFilters) : f.Agrees := by
  simp only [allStateFilters, List.mem_cons, List.not_mem_nil, or_false] at hf
  rcases hf with rfl | rfl | rfl | rfl | rfl | rfl | rfl <;> exact .equals (by decide +kernel)

/-! ## Blocks -/

/-- A list of partial results, labelled by what they come from, keeps the order of the labels. -/
theorem map_filterMap_sublist {α β γ : Type} {f : α → Option β} {g : β → γ} (label : α → γ)
    (h : ∀ a b, f a = some b → g b = label a) (l : List α) :
    ((l.filterMap f).map g).Sublist (l.map label) := by
  induction l with
  | nil => exact List.Sublist.refl _
  | cons a l ih =>
    cases hfa : f a with
    | none =>
      rw [List.filterMap_cons_none hfa]
      exact ih.cons _
    | some b =>
      rw [List.filterMap_cons_some hfa, List.map_cons, List.map_cons, h a b hfa]
      exact ih.cons_cons _

/-- The values of the four classes of entities, with the fields that they restrict. -/
def entityValues (mode : MatchMode) (l : Lexicon) (text : List Char) :
    List (String × List String) :=
  [(counterpartyField, counterpartiesIn mode l text), (productField, productsIn mode l text),
   (traderField, tradersIn mode l text), (deskField, desksIn mode l text)]

theorem entityFilters_eq (mode : MatchMode) (l : Lexicon) (text : List Char) :
    entityFilters mode l text =
      (entityValues mode l text).filterMap fun p => Filter.anyOf? p.1 p.2 := rfl

theorem entityFilters_sublist (mode : MatchMode) (l : Lexicon) (text : List Char) :
    ((entityFilters mode l text).map (·.field)).Sublist entityFields := by
  rw [entityFilters_eq]
  exact map_filterMap_sublist Prod.fst (fun _ _ h => Filter.field_of_anyOf? h)
    (entityValues mode l text)

theorem thresholds_sublist (text : List Char) :
    ((thresholds text).map (·.field)).Sublist thresholdFields :=
  map_filterMap_sublist Metric.field (fun _ _ h => field_of_threshold? h) Metric.all

theorem Compiler.filters_inBlocks (c : Compiler) (text : List Char) : InBlocks (c.filters text) :=
  ⟨_, _, _, c.filters_eq text, entityFilters_sublist _ _ _, thresholds_sublist _,
    stateFilters_sublist _ _⟩

theorem Compiler.agrees_of_mem_filters {c : Compiler} (hl : c.lexicon.Valid) {text : List Char}
    {f : Filter} (hf : f ∈ c.filters text) : f.Agrees := by
  rw [filters_eq, List.mem_append, List.mem_append] at hf
  rcases hf with (hf | hf) | hf
  · exact agrees_of_mem_entityFilters hl hf
  · obtain ⟨metric, -, h⟩ := List.mem_filterMap.1 hf
    exact agrees_of_threshold? h
  · exact agrees_of_mem_allStateFilters ((stateFilters_sublist _ _).subset hf)

/-! ## Columns, grouping, limit and statistics -/

theorem defaultColumns_nodup (type : ReportType) : (defaultColumns type).Nodup := by
  cases type <;> decide +kernel

theorem defaultColumns_eq_nil {type : ReportType} (h : defaultColumns type = []) :
    type = .generic := by
  cases type <;> first | rfl | cases h

theorem metricsIn_nodup (mode : MatchMode) (l : Lexicon) (type : ReportType) (text : List Char) :
    (metricsIn mode l type text).Nodup := by
  simp only [metricsIn]
  split
  · exact defaultColumns_nodup type
  · exact nodup_eraseDups _

/-- No columns are named exactly if no keyword is there: every entry of a valid lexicon has some. -/
theorem namedMetrics_eq_nil_iff {mode : MatchMode} {l : Lexicon} (hl : l.Valid)
    {text : List Char} :
    namedMetrics mode l text = [] ↔ ∀ e ∈ l.metrics, mode.has text e.surface = false := by
  rw [namedMetrics, eraseDups_eq_nil_iff, List.flatMap_eq_nil_iff]
  constructor
  · intro h e he
    rw [← Bool.not_eq_true]
    intro hhas
    exact (hl.metrics e he).1 (h e (List.mem_filter.2 ⟨he, hhas⟩))
  · intro h e he
    obtain ⟨hmem, hhas⟩ := List.mem_filter.1 he
    rw [h e hmem] at hhas
    cases hhas

theorem metricsIn_eq_nil {mode : MatchMode} {l : Lexicon} (hl : l.Valid) {type : ReportType}
    {text : List Char} (h : metricsIn mode l type text = []) :
    type = .generic ∧ ∀ e ∈ l.metrics, mode.has text e.surface = false := by
  simp only [metricsIn] at h
  split at h
  · rename_i hnamed
    exact ⟨defaultColumns_eq_nil h, (namedMetrics_eq_nil_iff hl).1 (List.isEmpty_iff.1 hnamed)⟩
  · rename_i hnamed
    rw [h] at hnamed
    exact absurd rfl hnamed

theorem groupingIn_nodup {mode : MatchMode} {text : List Char} {fields : List String}
    (h : groupingIn mode text = some fields) : fields ≠ [] ∧ fields.Nodup := by
  refine ⟨fun hnil => groupingIn_ne_some_nil mode text (hnil ▸ h), ?_⟩
  simp only [groupingIn, Option.ite_none_left_eq_some, Option.some.injEq] at h
  obtain ⟨-, rfl⟩ := h
  have hall : (groupings.map (·.2)).Nodup := by decide +kernel
  exact hall.sublist (List.filter_sublist.map _)

theorem limitIn_pos {text : List Char} {n : Fin (greatestLimit + 1)} (h : limitIn text = some n) :
    1 ≤ n.val := by
  simp only [limitIn, Option.bind_eq_bind, Option.bind_eq_some_iff] at h
  obtain ⟨m, -, numeral, -, hn⟩ := h
  exact limitOfNumeral?_pos hn

/-! ## Names -/

/-- The texts of a filter that agrees are not blank. -/
theorem Filter.Agrees.isBlankText_of_mem {f : Filter} (h : f.Agrees) {s : String}
    (hs : s ∈ f.value.allTexts) : s.isBlankText = false := by
  cases h with
  | equals h =>
    rw [List.mem_singleton.1 hs]
    exact h
  | oneOf _ _ h => exact h s hs
  | greaterThan _ => cases hs
  | lessThan _ => cases hs

theorem isBlankText_of_mem_titleParts {mode : MatchMode} {query : List Char} {type : ReportType}
    {filters : List Filter} (hfilters : ∀ f ∈ filters, f.Agrees) {window : Window} {s : String}
    (hs : s ∈ titleParts mode query type filters window) : s.isBlankText = false := by
  rcases mem_titleParts hs with hfixed | ⟨values, hne, hvalues, rfl⟩
  · have hall : ∀ part ∈ fixedParts, part.isBlankText = false := by decide +kernel
    exact hall s hfixed
  · obtain ⟨v, hv⟩ := List.exists_mem_of_ne_nil _ hne
    obtain ⟨f, hf, hvf⟩ := mem_textsOf_iff.1 (hvalues hv)
    exact String.isBlankText_intercalate hv ((hfilters f hf).isBlankText_of_mem hvf)

theorem isBlankText_title {mode : MatchMode} {query : List Char} {type : ReportType}
    {filters : List Filter} (hfilters : ∀ f ∈ filters, f.Agrees) {window : Window} :
    (title mode query type filters window).isBlankText = false := by
  unfold title
  cases hparts : titleParts mode query type filters window with
  | nil => decide +kernel
  | cons first rest =>
    have hfirst : first.isBlankText = false :=
      isBlankText_of_mem_titleParts hfilters (by rw [hparts]; exact List.mem_cons_self)
    exact String.isBlankText_intercalate List.mem_cons_self hfirst

/-! ## Reports -/

theorem Compiler.configure_eq_ok {x : Extension} {mode : MatchMode} {c : Compiler}
    (h : configure x mode = .ok c) : Lexicon.extend x = .ok c.lexicon ∧ c.mode = mode := by
  obtain ⟨l, hl, heq⟩ := bind_eq_ok_iff.1 h
  cases heq
  exact ⟨hl, rfl⟩

theorem Compiler.valid_of_configure {x : Extension} {mode : MatchMode} {c : Compiler}
    (h : configure x mode = .ok c) : c.lexicon.Valid :=
  Lexicon.valid_of_extend (configure_eq_ok h).1

/-- Every configuration that is accepted compiles every query to a well-formed report. -/
theorem compile_wellFormed {config : Config} {c : Compiler}
    (h : Compiler.configure config.lexicon config.mode = .ok c) (query : String) (now : Instant) :
    (c.compile query now).WellFormed c (Text.normalize query.toList) := by
  have hl : c.lexicon.Valid := Compiler.valid_of_configure h
  constructor
  · rw [c.compile_filters]
    exact c.filters_inBlocks _
  · rw [c.compile_filters]
    exact fun f hf => Compiler.agrees_of_mem_filters hl hf
  · rw [c.compile_metrics]
    exact metricsIn_nodup _ _ _ _
  · rw [c.compile_metrics, c.compile_reportType]
    exact metricsIn_eq_nil hl
  · rw [c.compile_groupBy]
    exact fun fields hfields => groupingIn_nodup hfields
  · rw [c.compile_limit]
    exact fun n hn => limitIn_pos hn
  · rw [c.compile_aggregations]
    exact List.filter_sublist
  · rw [c.compile_name]
    exact isBlankText_title fun f hf => Compiler.agrees_of_mem_filters hl hf

/-- A query on a counterparty of the operator's own, whose surface was configured with blanks. -/
theorem compile_wellFormed_providus :
    ∃ c, Compiler.configure { Extension.empty with counterparties := ["  Providus Bank "] }
        .wordBoundary = .ok c ∧
      "providus bank" ∈ c.lexicon.counterparties ∧
      (c.compile "Top 5 Providus Bank trades above 2m"
          (.startOf ⟨2026, 10, 19, by decide, by decide, by decide⟩)).WellFormed c
        (Text.normalize "Top 5 Providus Bank trades above 2m".toList) := by
  let config : Config :=
    { mode := .wordBoundary
      lexicon := { Extension.empty with counterparties := ["  Providus Bank "] } }
  have h : Compiler.configure config.lexicon config.mode =
      .ok ⟨{ Lexicon.builtin with
          counterparties := Lexicon.builtin.counterparties ++ ["providus bank"] },
        .wordBoundary⟩ := rfl
  exact ⟨_, h, List.mem_append_right _ (List.mem_singleton_self _), compile_wellFormed h _ _⟩

end ReportPlan
