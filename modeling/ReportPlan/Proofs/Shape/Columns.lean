import ReportPlan.Proofs.Report.Keywords

/-! # The columns of metric keywords

The keywords of a text select the union of their columns, in the order in which the table of the
lexicon lists them first. Only a text without any keyword gets the default columns of its report
type: an entry that selects nothing does not pass the checks of a lexicon.

* `NamedBefore`: the entries of a table that a text names list a column before another one.
* `namedBefore_cons_iff`, `appearsBefore_namedColumns_iff`: they do so entry by entry, which is the
  order in the list of all their columns.
* `IsColumnUnion`: the columns of the entries that a text names, each once and in this order.
* `isColumnUnion_iff`: the columns found are this union, and no other list is.
* `metricsIn_of_extend`: the columns of a report, for every lexicon that extends the built-in one.
-/

set_option autoImplicit false

namespace ReportPlan

variable {mode : MatchMode} {text : List Char} {table : List (Entry (List String))}

/-- An entry that the text names lists the column `a`. Neither an earlier entry that it names nor this
one further left lists the column `b`. -/
def NamedBefore (mode : MatchMode) (text : List Char) (table : List (Entry (List String)))
    (a b : String) : Prop :=
  ∃ before e after, table = before ++ e :: after ∧ mode.has text e.surface = true ∧
    AppearsBefore e.value a b ∧ ∀ d ∈ before, mode.has text d.surface = true → b ∉ d.value

/-- The columns of the entries that the text names, each once, in the order in which the table lists
them first. -/
structure IsColumnUnion (mode : MatchMode) (text : List Char) (table : List (Entry (List String)))
    (columns : List String) : Prop where
  mem_iff : ∀ a, a ∈ columns ↔ ∃ e ∈ table, mode.has text e.surface = true ∧ a ∈ e.value
  nodup : columns.Nodup
  ordered : columns.Pairwise (NamedBefore mode text table)

/-- All columns of the entries that the text names. -/
def namedColumns (mode : MatchMode) (text : List Char) (table : List (Entry (List String))) :
    List String :=
  (table.filter fun e => mode.has text e.surface).flatMap (·.value)

/-! ## Order -/

theorem NamedBefore.ne {a b : String} (h : NamedBefore mode text table a b) : a ≠ b := by
  obtain ⟨before, e, after, -, -, hlists, -⟩ := h
  exact hlists.ne

theorem namedBefore_cons_iff {e : Entry (List String)} {a b : String} :
    NamedBefore mode text (e :: table) a b ↔
      mode.has text e.surface = true ∧ AppearsBefore e.value a b ∨
        (mode.has text e.surface = true → b ∉ e.value) ∧ NamedBefore mode text table a b := by
  constructor
  · rintro ⟨before, e', after, hsplit, hhas, hlists, hbefore⟩
    cases before with
    | nil =>
      obtain ⟨rfl, -⟩ := List.cons.inj hsplit
      exact .inl ⟨hhas, hlists⟩
    | cons d before =>
      obtain ⟨rfl, hrest⟩ := List.cons.inj hsplit
      obtain ⟨hfirst, hbefore⟩ := List.forall_mem_cons.1 hbefore
      exact .inr ⟨hfirst, before, e', after, hrest, hhas, hlists, hbefore⟩
  · rintro (⟨hhas, hlists⟩ | ⟨hfirst, before, e', after, rfl, hhas, hlists, hbefore⟩)
    · exact ⟨[], e, table, rfl, hhas, hlists, fun d hd => absurd hd List.not_mem_nil⟩
    · exact ⟨e :: before, e', after, rfl, hhas, hlists,
        List.forall_mem_cons.2 ⟨hfirst, hbefore⟩⟩

theorem namedColumns_cons (e : Entry (List String)) :
    namedColumns mode text (e :: table) =
      (if mode.has text e.surface = true then e.value else []) ++ namedColumns mode text table := by
  rw [namedColumns, namedColumns, List.filter_cons]
  split
  · rw [List.flatMap_cons]
  · rfl

theorem appearsBefore_namedColumns_iff {a b : String} :
    AppearsBefore (namedColumns mode text table) a b ↔ NamedBefore mode text table a b := by
  induction table with
  | nil =>
    refine iff_of_false ?_ ?_
    · rintro ⟨front, back, hsplit, -⟩
      exact absurd hsplit.symm (List.append_ne_nil_of_right_ne_nil _ (List.cons_ne_nil _ _))
    · rintro ⟨before, e, after, hsplit, -⟩
      exact absurd hsplit.symm (List.append_ne_nil_of_right_ne_nil _ (List.cons_ne_nil _ _))
  | cons e table ih =>
    rw [namedBefore_cons_iff, ← ih, namedColumns_cons]
    split
    · rename_i hhas
      simp only [appearsBefore_append_iff, hhas, true_and, true_imp_iff]
    · rename_i hhas
      simp [hhas]

theorem mem_namedColumns {a : String} :
    a ∈ namedColumns mode text table ↔
      ∃ e ∈ table, mode.has text e.surface = true ∧ a ∈ e.value := by
  simp only [namedColumns, List.mem_flatMap, List.mem_filter, and_assoc]

/-! ## The union -/

theorem isColumnUnion_iff {l : Lexicon} {columns : List String} :
    IsColumnUnion mode text l.metrics columns ↔ columns = namedMetrics mode l text := by
  have horder : AppearsBefore (namedColumns mode text l.metrics) =
      NamedBefore mode text l.metrics := by
    funext a b
    exact propext appearsBefore_namedColumns_iff
  have hnamed : namedMetrics mode l text = (namedColumns mode text l.metrics).eraseDups := rfl
  rw [hnamed, eq_eraseDups_iff, horder]
  simp only [mem_namedColumns]
  constructor
  · rintro ⟨hmem, -, hordered⟩
    exact ⟨hmem, hordered⟩
  · rintro ⟨hmem, hordered⟩
    exact ⟨hmem, hordered.imp NamedBefore.ne, hordered⟩

theorem metricsIn_of_not_named {l : Lexicon} {type : ReportType}
    (h : ∀ e ∈ l.metrics, mode.has text e.surface = false) :
    metricsIn mode l type text = defaultColumns type := by
  have hnone : (l.metrics.filter fun e => mode.has text e.surface) = [] :=
    List.filter_eq_nil_iff.2 fun e he => ne_true_of_eq_false (h e he)
  simp [metricsIn, namedMetrics, hnone]

/-- The report has the union of the columns of the keywords that its text names, and the default
columns of its type only if it names none. -/
theorem metricsIn_of_extend {x : Extension} {l : Lexicon} (h : Lexicon.extend x = .ok l)
    (mode : MatchMode) (type : ReportType) (text : List Char) :
    ((∃ e ∈ l.metrics, mode.has text e.surface = true) →
      IsColumnUnion mode text l.metrics (metricsIn mode l type text)) ∧
    ((∀ e ∈ l.metrics, mode.has text e.surface = false) →
      metricsIn mode l type text = defaultColumns type) := by
  constructor
  · rintro ⟨e, he, hhas⟩
    have hnamed := namedMetrics_ne_nil (Lexicon.valid_of_extend h) he hhas
    exact isColumnUnion_iff.2 (metricsIn_of_named hnamed)
  · exact metricsIn_of_not_named

/-- An entry that replaces a built-in one and lists a column twice, and a new one that shares a column
with it; and a text that names neither. -/
theorem metricsIn_of_extend_repeated :
    ∃ l, Lexicon.extend { Extension.empty with
        metrics := .ofEntries [("Flow", ["net_flow", " amount_ngn", "net_flow"]),
          ("VOLUME", ["trade_count", "trade_count", "amount_ngn"])] } = .ok l ∧
      IsColumnUnion .wordBoundary "flow of amounts and volume".toList l.metrics
        (metricsIn .wordBoundary l .pnl "flow of amounts and volume".toList) ∧
      metricsIn .wordBoundary l .pnl "flow of amounts and volume".toList =
        ["trade_count", "amount_ngn", "net_flow"] ∧
      metricsIn .wordBoundary l .generic "all trades".toList = defaultColumns .generic := by
  let l : Lexicon := { Lexicon.builtin with
    metrics := ⟨"volume", ["trade_count", "trade_count", "amount_ngn"]⟩ ::
      Lexicon.builtinMetrics.tail ++ [⟨"flow", ["net_flow", "amount_ngn", "net_flow"]⟩] }
  have h : Lexicon.extend { Extension.empty with
      metrics := .ofEntries [("Flow", ["net_flow", " amount_ngn", "net_flow"]),
        ("VOLUME", ["trade_count", "trade_count", "amount_ngn"])] } = .ok l := by
    rfl
  have hnamed : ∃ e ∈ l.metrics,
      MatchMode.wordBoundary.has "flow of amounts and volume".toList e.surface = true := by
    decide +kernel
  have hnone : ∀ e ∈ l.metrics, MatchMode.wordBoundary.has "all trades".toList e.surface = false := by
    decide +kernel
  exact ⟨l, h, (metricsIn_of_extend h _ _ _).1 hnamed, by decide +kernel,
    (metricsIn_of_extend h _ _ _).2 hnone⟩

end ReportPlan
