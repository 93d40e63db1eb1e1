import Mathlib.Data.List.Forall2
import ReportPlan.Proofs.Covering
import ReportPlan.Proofs.Report.WellFormed

/-! # Lexicons in another order

The order of a table is the order in which its values are listed. What is mentioned does not depend
on it, nor how many values there are, and so neither do the operators of the filters.

* `Lexicon.Reorders`: the tables of one lexicon have the entries of another one in other orders.
* `mentioned_perm`, `eraseDups_perm`: the entries mentioned, and their distinct values.
* `Operand.Reorders`, `Filter.Reorders`, `Report.Reorders`: what the order of a lexicon leaves of a
  report.
* `Compiler.compile_reorders`: nothing else depends on it.
-/

set_option autoImplicit false

namespace ReportPlan

variable {α : Type}

/-! ## Tables in another order -/

/-- Two lexicons have the same entries, with the tables in any order. -/
structure Lexicon.Reorders (l l' : Lexicon) : Prop where
  counterparties : l.counterparties.Perm l'.counterparties
  products : l.products.Perm l'.products
  traders : l.traders.Perm l'.traders
  desks : l.desks.Perm l'.desks
  metrics : l.metrics.Perm l'.metrics

/-- The tables of a lexicon backwards. -/
def Lexicon.reversed (l : Lexicon) : Lexicon where
  counterparties := l.counterparties.reverse
  products := l.products.reverse
  traders := l.traders.reverse
  desks := l.desks.reverse
  metrics := l.metrics.reverse

theorem Lexicon.reorders_reversed (l : Lexicon) : l.Reorders l.reversed :=
  ⟨(List.reverse_perm _).symm, (List.reverse_perm _).symm, (List.reverse_perm _).symm,
    (List.reverse_perm _).symm, (List.reverse_perm _).symm⟩

section Tables

variable {mode : MatchMode} {text : List Char}

theorem coveredAt_perm {surface : α → String} {table table' : List α} (h : table.Perm table')
    {s : String} {span : Span} :
    CoveredAt mode text surface table s span ↔ CoveredAt mode text surface table' s span := by
  unfold CoveredAt
  simp only [h.mem_iff]

/-- What covers an entry may stand anywhere in the table, so that the entries mentioned are the
same, in the order of the table. -/
theorem mentioned_perm {surface : α → String} {table table' : List α} (h : table.Perm table') :
    (mentioned mode text surface table).Perm (mentioned mode text surface table') := by
  classical
  rw [mentioned_eq_filter, mentioned_eq_filter]
  simp only [coveredAt_perm h]
  exact h.filter _

theorem eraseDups_perm [BEq α] [LawfulBEq α] {l l' : List α} (h : l.Perm l') :
    l.eraseDups.Perm l'.eraseDups := by
  rw [List.perm_ext_iff_of_nodup (nodup_eraseDups l) (nodup_eraseDups l')]
  intro a
  rw [List.mem_eraseDups, List.mem_eraseDups]
  exact h.mem_iff

theorem namesIn_perm {table table' : List (Entry String)} (h : table.Perm table') :
    (namesIn mode table text).Perm (namesIn mode table' text) :=
  eraseDups_perm ((mentioned_perm h).map _)

variable {l l' : Lexicon}

theorem Lexicon.Reorders.counterpartiesIn_perm (h : l.Reorders l') :
    (counterpartiesIn mode l text).Perm (counterpartiesIn mode l' text) :=
  eraseDups_perm ((mentioned_perm h.counterparties).map _)

theorem Lexicon.Reorders.productsIn_perm (h : l.Reorders l') :
    (productsIn mode l text).Perm (productsIn mode l' text) :=
  eraseDups_perm ((mentioned_perm h.products).flatMap_right _)

theorem Lexicon.Reorders.namedMetrics_perm (h : l.Reorders l') :
    (namedMetrics mode l text).Perm (namedMetrics mode l' text) :=
  eraseDups_perm ((h.metrics.filter _).flatMap_right _)

/-- Default columns are shown if none are named, which does not depend on an order. -/
theorem Lexicon.Reorders.metricsIn_perm (h : l.Reorders l') (type : ReportType) :
    (metricsIn mode l type text).Perm (metricsIn mode l' type text) := by
  have hnamed : (namedMetrics mode l text).Perm (namedMetrics mode l' text) :=
    h.namedMetrics_perm
  simp only [metricsIn, hnamed.isEmpty_eq]
  split
  · exact List.Perm.refl _
  · exact hnamed

end Tables

/-! ## Filters in another order -/

/-- Two operands have the same values; those of a list may stand in another order. -/
inductive Operand.Reorders : Operand → Operand → Prop
  | refl (o : Operand) : Reorders o o
  | texts {items items' : List String} (h : items.Perm items') :
      Reorders (.texts items) (.texts items')

/-- Two filters have the same field, the same operator and the same values. -/
structure Filter.Reorders (f f' : Filter) : Prop where
  field : f.field = f'.field
  operator : f.operator = f'.operator
  value : f.value.Reorders f'.value

theorem Filter.Reorders.refl (f : Filter) : f.Reorders f :=
  ⟨rfl, rfl, .refl _⟩

/-- The operator is chosen by the number of values. -/
theorem anyOf?_reorders {field : String} {values values' : List String}
    (h : values.Perm values') :
    Option.Rel Filter.Reorders (Filter.anyOf? field values) (Filter.anyOf? field values') := by
  match values with
  | [] =>
    obtain rfl := List.nil_perm.1 h
    exact .none
  | [v] =>
    obtain rfl := List.singleton_perm.1 h
    exact .some (Filter.Reorders.refl _)
  | v :: w :: rest =>
    match values', h.length_eq with
    | v' :: w' :: rest', _ => exact .some ⟨rfl, rfl, .texts h⟩

theorem Lexicon.Reorders.entityFilters_reorders {l l' : Lexicon} (h : l.Reorders l')
    (mode : MatchMode) (text : List Char) :
    List.Forall₂ Filter.Reorders (entityFilters mode l text) (entityFilters mode l' text) := by
  refine List.rel_filterMap (R := Option.Rel Filter.Reorders) (fun _ _ hrel => hrel) ?_
  constructor
  · exact anyOf?_reorders h.counterpartiesIn_perm
  constructor
  · exact anyOf?_reorders h.productsIn_perm
  constructor
  · exact anyOf?_reorders (namesIn_perm h.traders)
  constructor
  · exact anyOf?_reorders (namesIn_perm h.desks)
  exact .nil

/-! ## Reports -/

/-- Two reports plan the same: their filters have the same values and they show the same columns,
both perhaps listed in another order. -/
structure Report.Reorders (r r' : Report) : Prop where
  reportType : r.reportType = r'.reportType
  filters : List.Forall₂ Filter.Reorders r.filters r'.filters
  metrics : r.metrics.Perm r'.metrics
  groupBy : r.groupBy = r'.groupBy
  sortBy : r.sortBy = r'.sortBy
  limit : r.limit = r'.limit
  window : r.window = r'.window
  aggregations : r.aggregations = r'.aggregations

/-- The order of the tables of a lexicon changes nothing of the plan of a report. -/
theorem Compiler.compile_reorders {l l' : Lexicon} (h : l.Reorders l') (mode : MatchMode)
    (query : String) (now : Instant) :
    (compile ⟨l, mode⟩ query now).Reorders (compile ⟨l', mode⟩ query now) where
  reportType := rfl
  filters := by
    rw [compile_filters, compile_filters, filters_eq, filters_eq]
    have hrest : ∀ filters : List Filter, List.Forall₂ Filter.Reorders filters filters :=
      fun filters => List.forall₂_same.2 fun f _ => Filter.Reorders.refl f
    rw [List.append_assoc, List.append_assoc]
    exact List.rel_append (h.entityFilters_reorders mode _) (hrest _)
  metrics := by
    rw [compile_metrics, compile_metrics]
    exact h.metricsIn_perm _
  groupBy := rfl
  sortBy := rfl
  limit := rfl
  window := rfl
  aggregations := rfl

/-- Backwards, the built-in lexicon lists the products of `fx` and `swap`, and the columns, in
another order. -/
theorem Compiler.compile_reorders_reversed :
    Lexicon.builtin.Reorders Lexicon.builtin.reversed ∧
      (compile ⟨.builtin, .substring⟩ "fx and swap volume, p&l"
          (.startOf ⟨2026, 10, 19, by decide, by decide, by decide⟩)).Reorders
        (compile ⟨Lexicon.builtin.reversed, .substring⟩ "fx and swap volume, p&l"
          (.startOf ⟨2026, 10, 19, by decide, by decide, by decide⟩)) :=
  ⟨Lexicon.reorders_reversed _, compile_reorders (Lexicon.reorders_reversed _) _ _ _⟩

end ReportPlan
