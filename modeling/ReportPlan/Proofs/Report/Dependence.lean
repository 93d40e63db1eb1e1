import ReportPlan.Proofs.Report.WellFormed

/-! # What the parts of a report depend on

A query is read in its normal form, so its letter case and its spacing reach no further than the
label of the window. Each table of a lexicon is read for one part of the report: metrics for the
columns, and every class of entities for the filter on its field. The name repeats counterparties
and products, and nothing else of the tables.

* `SameButLabel`: reports that differ at most in the last part of their names.
* `Compiler.sameButLabel_of_normalize_eq`: two queries with one normal form.
* `Lexicon.SameBut`: lexicons that differ in one table at most.
* `Report.SameOutside`: reports that differ at most in what such a table is read for.
* `Compiler.sameOutside_of_sameBut`: the tables do not interfere.
-/

set_option autoImplicit false

namespace ReportPlan

variable {mode : MatchMode} {text : List Char}

/-! ## Names -/

/-- The parts of a name that stand before the label of the window. -/
def titleStem (type : ReportType) (filters : List Filter) : List String :=
  typePart type ++ counterpartyPart filters ++ productPart filters

theorem title_of_allTime {window : Window} (h : window.isAllTime = true) (query query' : List Char)
    (type : ReportType) (filters : List Filter) :
    title mode query type filters window = title mode query' type filters window := by
  rw [title, title, titleParts, titleParts, windowPart, windowPart, if_pos h, if_pos h]

theorem title_of_window {window : Window} (h : window.isAllTime = false) (query : List Char)
    (type : ReportType) (filters : List Filter) :
    title mode query type filters window =
      " - ".intercalate (titleStem type filters ++ [windowLabel mode query]) := by
  have hparts : titleParts mode query type filters window =
      titleStem type filters ++ [windowLabel mode query] := by
    rw [titleParts, windowPart, if_neg (by simp [h]), titleStem]
  rw [title, hparts]
  split
  · rename_i hnil
    exact absurd hnil (List.append_ne_nil_of_right_ne_nil _ (List.cons_ne_nil _ _))
  · rfl

/-- Of the filters, a name tells those on the first counterparty and on the products. -/
theorem title_congr {filters filters' : List Filter}
    (hcounterparty : Filter.on? filters counterpartyField = Filter.on? filters' counterpartyField)
    (hproduct : Filter.on? filters productField = Filter.on? filters' productField)
    (query : List Char) (type : ReportType) (window : Window) :
    title mode query type filters window = title mode query type filters' window := by
  have hparts : titleParts mode query type filters window =
      titleParts mode query type filters' window := by
    rw [titleParts, titleParts, counterpartyPart, counterpartyPart, hcounterparty, productPart,
      productPart, hproduct]
  rw [title, title, hparts]

/-! ## Letter case and spacing -/

/-- Reports of two queries that differ at most in the label which ends their names. -/
structure SameButLabel (mode : MatchMode) (query query' : String) (r r' : Report) : Prop where
  plan : { r with name := r'.name } = r'
  name_of_allTime : r.window.isAllTime = true → r.name = r'.name
  name_of_window : r.window.isAllTime = false →
    ∃ stem, r.name = " - ".intercalate (stem ++ [windowLabel mode query.toList]) ∧
      r'.name = " - ".intercalate (stem ++ [windowLabel mode query'.toList])

/-- Of the letter case and the spacing of a query, nothing reaches the report but through the label
of its window. -/
theorem Compiler.sameButLabel_of_normalize_eq (c : Compiler) {query query' : String}
    (h : Text.normalize query.toList = Text.normalize query'.toList) (now : Instant) :
    SameButLabel c.mode query query' (c.compile query now) (c.compile query' now) := by
  constructor
  · simp only [compile, h]
  · intro hall
    rw [compile_window] at hall
    rw [compile_name, compile_name, ← h]
    exact title_of_allTime hall _ _ _ _
  · intro hwindow
    rw [compile_window] at hwindow
    refine ⟨titleStem (classify c.mode (Text.normalize query.toList))
      (c.filters (Text.normalize query.toList)), ?_, ?_⟩
    · rw [compile_name]
      exact title_of_window hwindow _ _ _
    · rw [compile_name, ← h]
      exact title_of_window hwindow _ _ _

/-- A capital and a second space take a query on this month its label, and no more. -/
theorem Compiler.sameButLabel_thisMonth :
    Text.normalize "UBA  trades This month".toList = Text.normalize "uba trades this month".toList ∧
      windowLabel .substring "UBA  trades This month".toList ≠
        windowLabel .substring "uba trades this month".toList ∧
      SameButLabel .substring "UBA  trades This month" "uba trades this month"
        (standard.compile "UBA  trades This month"
          (.startOf ⟨2026, 10, 19, by decide, by decide, by decide⟩))
        (standard.compile "uba trades this month"
          (.startOf ⟨2026, 10, 19, by decide, by decide, by decide⟩)) := by
  have h : Text.normalize "UBA  trades This month".toList =
      Text.normalize "uba trades this month".toList := by decide +kernel
  exact ⟨h, by decide +kernel, standard.sameButLabel_of_normalize_eq h _⟩

/-! ## Tables -/

/-- Two lexicons have the same tables, but for one of them perhaps. -/
structure Lexicon.SameBut (table : Table) (l l' : Lexicon) : Prop where
  counterparties : table ≠ .counterparties → l.counterparties = l'.counterparties
  products : table ≠ .products → l.products = l'.products
  metrics : table ≠ .metrics → l.metrics = l'.metrics
  traders : table ≠ .traders → l.traders = l'.traders
  desks : table ≠ .desks → l.desks = l'.desks

/-- The field that the entities of a table restrict. Metrics restrict none. -/
def Table.field? : Table → Option String
  | counterparties => some counterpartyField
  | products => some productField
  | metrics => none
  | traders => some traderField
  | desks => some deskField

/-- Whether a filter is on another field than the one of a table. -/
def Filter.isOutside (table : Table) (f : Filter) : Bool :=
  table.field? ≠ some f.field

/-- Two reports agree in everything that a table is not read for. -/
structure Report.SameOutside (table : Table) (r r' : Report) : Prop where
  reportType : r.reportType = r'.reportType
  groupBy : r.groupBy = r'.groupBy
  sortBy : r.sortBy = r'.sortBy
  limit : r.limit = r'.limit
  window : r.window = r'.window
  aggregations : r.aggregations = r'.aggregations
  metrics : table ≠ .metrics → r.metrics = r'.metrics
  /-- All other filters are the same, in the same order. -/
  otherFilters : r.filters.filter (·.isOutside table) = r'.filters.filter (·.isOutside table)
  filters : table = .metrics → r.filters = r'.filters
  name : table ≠ .counterparties → table ≠ .products → r.name = r'.name

section Tables

variable {l l' : Lexicon} {table : Table}

theorem on?_filter_isOutside {field : String} (h : table.field? ≠ some field)
    (filters : List Filter) :
    Filter.on? (filters.filter (·.isOutside table)) field = Filter.on? filters field := by
  have houtside : ∀ f : Filter, (f.field == field) = true → f.isOutside table = true := by
    intro f hf
    rw [Filter.isOutside, eq_of_beq hf]
    exact decide_eq_true h
  rw [Filter.on?, Filter.on?, List.find?_filter]
  congr 1
  funext f
  rw [Bool.eq_iff_iff, decide_eq_true_iff]
  exact and_iff_right_of_imp (houtside f)

theorem filter_anyOf?_congr {field : String} {values values' : List String}
    (h : table.field? ≠ some field → values = values') :
    (Filter.anyOf? field values).filter (·.isOutside table) =
      (Filter.anyOf? field values').filter (·.isOutside table) := by
  by_cases hfield : table.field? = some field
  · -- the filter on the field of the table is left out, whatever its values are
    have hnone : ∀ values, (Filter.anyOf? field values).filter (·.isOutside table) = none := by
      intro values
      rw [Option.filter_eq_none_iff]
      intro f hf houtside
      rw [Filter.isOutside, Filter.field_of_anyOf? hf] at houtside
      exact of_decide_eq_true houtside hfield
    rw [hnone, hnone]
  · rw [h hfield]

/-- Every class of entities reads its own table and no other. -/
theorem Lexicon.SameBut.filter_entityFilters (h : l.SameBut table l') :
    (entityFilters mode l text).filter (·.isOutside table) =
      (entityFilters mode l' text).filter (·.isOutside table) := by
  have hcounterparties : table.field? ≠ some counterpartyField →
      counterpartiesIn mode l text = counterpartiesIn mode l' text := by
    intro hne
    rw [counterpartiesIn, counterpartiesIn, h.counterparties (mt (congrArg Table.field?) hne)]
  have hproducts : table.field? ≠ some productField →
      productsIn mode l text = productsIn mode l' text := by
    intro hne
    rw [productsIn, productsIn, h.products (mt (congrArg Table.field?) hne)]
  have htraders : table.field? ≠ some traderField →
      tradersIn mode l text = tradersIn mode l' text := by
    intro hne
    rw [tradersIn, tradersIn, h.traders (mt (congrArg Table.field?) hne)]
  have hdesks : table.field? ≠ some deskField → desksIn mode l text = desksIn mode l' text := by
    intro hne
    rw [desksIn, desksIn, h.desks (mt (congrArg Table.field?) hne)]
  rw [entityFilters_eq, entityFilters_eq, List.filter_filterMap, List.filter_filterMap]
  simp only [entityValues, List.filterMap_cons, filter_anyOf?_congr hcounterparties,
    filter_anyOf?_congr hproducts, filter_anyOf?_congr htraders, filter_anyOf?_congr hdesks]

theorem Lexicon.SameBut.filter_filters (h : l.SameBut table l') :
    ((Compiler.mk l mode).filters text).filter (·.isOutside table) =
      ((Compiler.mk l' mode).filters text).filter (·.isOutside table) := by
  rw [Compiler.filters_eq, Compiler.filters_eq, List.append_assoc, List.append_assoc,
    List.filter_append, h.filter_entityFilters, ← List.filter_append]

theorem Lexicon.SameBut.filters_eq (h : l.SameBut .metrics l') :
    (Compiler.mk l mode).filters text = (Compiler.mk l' mode).filters text := by
  have hall : ∀ filters : List Filter, filters.filter (·.isOutside .metrics) = filters :=
    fun filters => List.filter_eq_self.2 fun _ _ => rfl
  rw [← hall ((Compiler.mk l mode).filters text), h.filter_filters, hall]

theorem Lexicon.SameBut.title_eq (h : l.SameBut table l') (hcounterparties : table ≠ .counterparties)
    (hproducts : table ≠ .products) (query : List Char) (type : ReportType) (window : Window) :
    title mode query type ((Compiler.mk l mode).filters text) window =
      title mode query type ((Compiler.mk l' mode).filters text) window := by
  have hfield : table.field? ≠ some counterpartyField ∧ table.field? ≠ some productField := by
    cases table <;> first | contradiction | decide
  refine title_congr ?_ ?_ query type window
  · rw [← on?_filter_isOutside hfield.1, h.filter_filters, on?_filter_isOutside hfield.1]
  · rw [← on?_filter_isOutside hfield.2, h.filter_filters, on?_filter_isOutside hfield.2]

end Tables

/-- A table of a lexicon is read for nothing but the columns, or the filter on its field, and for
the name if it has counterparties or products. What its entries are does not count, nor whether
other tables have the same surfaces. -/
theorem Compiler.sameOutside_of_sameBut {table : Table} {l l' : Lexicon} (h : l.SameBut table l')
    (mode : MatchMode) (query : String) (now : Instant) :
    Report.SameOutside table (compile ⟨l, mode⟩ query now) (compile ⟨l', mode⟩ query now) where
  reportType := rfl
  groupBy := rfl
  sortBy := rfl
  limit := rfl
  window := rfl
  aggregations := rfl
  metrics := by
    intro hne
    rw [compile_metrics, compile_metrics, metricsIn, metricsIn, namedMetrics, namedMetrics,
      h.metrics hne]
  otherFilters := by
    rw [compile_filters, compile_filters]
    exact h.filter_filters
  filters := by
    rintro rfl
    rw [compile_filters, compile_filters]
    exact h.filters_eq
  name := by
    intro hcounterparties hproducts
    rw [compile_name, compile_name]
    exact h.title_eq hcounterparties hproducts _ _ _

/-- Products with the surface of a bank and of a desk take neither from its own class. -/
theorem Compiler.sameOutside_products :
    Lexicon.SameBut .products .builtin
        { Lexicon.builtin with products := [⟨"uba", ["FX Swap"]⟩, ⟨"fx desk", ["NDF"]⟩] } ∧
      Report.SameOutside .products
        (compile ⟨.builtin, .substring⟩ "uba volume on the fx desk"
          (.startOf ⟨2026, 10, 19, by decide, by decide, by decide⟩))
        (compile ⟨{ Lexicon.builtin with
            products := [⟨"uba", ["FX Swap"]⟩, ⟨"fx desk", ["NDF"]⟩] }, .substring⟩
          "uba volume on the fx desk"
          (.startOf ⟨2026, 10, 19, by decide, by decide, by decide⟩)) := by
  have h : Lexicon.SameBut .products .builtin
      { Lexicon.builtin with products := [⟨"uba", ["FX Swap"]⟩, ⟨"fx desk", ["NDF"]⟩] } :=
    ⟨fun _ => rfl, fun hne => absurd rfl hne, fun _ => rfl, fun _ => rfl, fun _ => rfl⟩
  exact ⟨h, sameOutside_of_sameBut h _ _ _⟩

end ReportPlan
