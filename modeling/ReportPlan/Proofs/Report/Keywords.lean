import ReportPlan.Proofs.Report.Satisfiable
import ReportPlan.Proofs.Report.Sources

/-! # Keywords that are found again

Most of a report is read off keywords: one that is found adds to the report and takes nothing away,
and on a ladder it leads no later. So a text in which no less is found gives no less, though the
ladders may stop earlier.

* `ReportType.rung`, `PeriodRule.rung`: the places on the two ladders.
* `FindsNoLess`: one mode finds in one text all keywords that another one finds in another text.
* `mentioned_ne_nil_iff`: covering hides entities, but never all of them.
* `exists_entityFilter_iff`: so a class of entities is restricted if one of its surfaces is found.
* `exists_firedRule?_earlier`: the first rule, if every window of a rule is kept.
-/

set_option autoImplicit false

namespace ReportPlan

/-! ## Ladders -/

/-- The place of a report type on the ladder; the generic type stands behind all others. -/
def ReportType.rung (type : ReportType) : Nat :=
  (typeLadder.map (·.1)).idxOf type

/-- The place of a rule on the ladder of periods. -/
def PeriodRule.rung (rule : PeriodRule) : Nat :=
  PeriodRule.all.idxOf rule

/-! ## Keywords -/

/-- Every keyword that is found in one text by one mode is found in another text by another mode. -/
def FindsNoLess (mode : MatchMode) (text : List Char) (mode' : MatchMode) (text' : List Char) :
    Prop :=
  ∀ keyword, mode.has text keyword = true → mode'.has text' keyword = true

section Keywords

variable {mode mode' : MatchMode} {text text' : List Char}

theorem findsNoLess_of_extends (mode : MatchMode) (h : Text.Extends text text') :
    FindsNoLess mode text mode text' :=
  fun _ hhas => MatchMode.has_of_extends h hhas

theorem findsNoLess_substring (mode : MatchMode) (text : List Char) :
    FindsNoLess mode text .substring text :=
  fun _ hhas => MatchMode.contains_substring_of_contains hhas

theorem FindsNoLess.hasAny (h : FindsNoLess mode text mode' text') {keywords : List String}
    (hany : mode.hasAny text keywords = true) : mode'.hasAny text' keywords = true := by
  obtain ⟨keyword, hmem, hhas⟩ := hasAny_eq_true_iff.1 hany
  exact hasAny_eq_true_iff.2 ⟨keyword, hmem, h keyword hhas⟩

theorem rung_of_mem_typeLadder {step : ReportType × List String} (h : step ∈ typeLadder) :
    step.1.rung = typeLadder.idxOf step := by
  have hall : ∀ step ∈ typeLadder, step.1.rung = typeLadder.idxOf step := by decide +kernel
  exact hall step h

theorem classify_eq_findSome? (mode : MatchMode) (text : List Char) :
    classify mode text =
      ((typeLadder.findSome? (Option.guard fun step => mode.hasAny text step.2)).map (·.1)).getD
        .generic := by
  rw [classify, List.find?_eq_findSome?_guard]
  cases typeLadder.findSome? (Option.guard fun step => mode.hasAny text step.2) <;> rfl

theorem FindsNoLess.rung_classify_le (h : FindsNoLess mode text mode' text') :
    (classify mode' text').rung ≤ (classify mode text).rung := by
  rw [classify_eq_findSome?, classify_eq_findSome?]
  cases hfind : typeLadder.findSome? (Option.guard fun step => mode.hasAny text step.2) with
  | none => exact List.idxOf_le_length
  | some step =>
    obtain ⟨a, ha, a', ha', b', hstep, hb', hfind', hle⟩ :=
      exists_findSome?_earlier (g := Option.guard fun step => mode'.hasAny text' step.2)
        (fun a b hab => by
          obtain ⟨rfl, hany⟩ := Option.guard_eq_some_iff.1 hab
          exact ⟨_, Option.guard_eq_some_iff.2 ⟨rfl, h.hasAny hany⟩⟩) hfind
    obtain ⟨rfl, -⟩ := Option.guard_eq_some_iff.1 hstep
    obtain ⟨rfl, -⟩ := Option.guard_eq_some_iff.1 hb'
    rw [hfind']
    show a'.1.rung ≤ a.1.rung
    rw [rung_of_mem_typeLadder ha, rung_of_mem_typeLadder ha']
    exact hle

theorem FindsNoLess.groupingIn_subset (h : FindsNoLess mode text mode' text') :
    (groupingIn mode text).getD [] ⊆ (groupingIn mode' text').getD [] := by
  intro field hfield
  obtain ⟨phrase, hmem, hhas⟩ := mem_groupingIn_iff.1 hfield
  exact mem_groupingIn_iff.2 ⟨phrase, hmem, h _ hhas⟩

theorem FindsNoLess.aggregationsIn_subset (h : FindsNoLess mode text mode' text') :
    aggregationsIn mode text ⊆ aggregationsIn mode' text' := by
  intro a ha
  obtain ⟨hmem, k, hk, hhas⟩ := mem_aggregationsIn_iff.1 ha
  exact mem_aggregationsIn_iff.2 ⟨hmem, k, hk, h _ hhas⟩

theorem FindsNoLess.exists_sortIn (h : FindsNoLess mode text mode' text') {s : SortSpec}
    (hs : sortIn mode text = some s) :
    ∃ s', sortIn mode' text' = some s' ∧
      (s.direction = .ascending → s'.direction = .ascending) := by
  obtain ⟨⟨phrase, hphrase, hasked⟩, ⟨k, hk, hhas⟩, hascending⟩ := keywords_of_sortIn hs
  have hany : mode'.hasAny text' sortPhrases = true :=
    hasAny_eq_true_iff.2 ⟨phrase, hphrase, h _ hasked⟩
  have hfield : (sortFields.find? fun f => mode'.has text' f.1).isSome = true :=
    List.find?_isSome.2 ⟨_, hk, h _ hhas⟩
  obtain ⟨f', hf'⟩ := Option.isSome_iff_exists.1 hfield
  rw [sortIn, if_pos hany, hf']
  exact ⟨_, rfl, fun hdirection => if_pos (h _ (hascending hdirection))⟩

theorem FindsNoLess.namedMetrics_subset (h : FindsNoLess mode text mode' text') (l : Lexicon) :
    namedMetrics mode l text ⊆ namedMetrics mode' l text' := by
  intro metric hmetric
  obtain ⟨e, he, hvalue, hhas⟩ := mem_namedMetrics_iff.1 hmetric
  exact mem_namedMetrics_iff.2 ⟨e, he, hvalue, h _ hhas⟩

/-- Filters on states stay, unless they are on active records. -/
theorem FindsNoLess.mem_stateFilters (h : FindsNoLess mode text mode' text') {f : Filter}
    (hf : f ∈ stateFilters mode text) (hfield : f.field ≠ lifecycleField) :
    f ∈ stateFilters mode' text' := by
  rcases exists_keyword_of_mem_stateFilters hf with ⟨k, hk, hhas, rfl⟩ | ⟨-, rfl⟩
  · exact mem_stateFilters_of_has hk (h _ hhas)
  · exact absurd rfl hfield

/-- Matching anywhere loses none of them: the word inactive is looked for in the same way by both
modes. -/
theorem stateFilters_subset_substring (mode : MatchMode) (text : List Char) :
    stateFilters mode text ⊆ stateFilters .substring text := by
  intro f hf
  rw [stateFilters, List.mem_append] at hf
  rcases hf with hf | hf
  · obtain ⟨k, hk, rfl⟩ := List.mem_map.1 hf
    obtain ⟨hmem, hhas⟩ := List.mem_filter.1 hk
    exact mem_stateFilters_of_has hmem (MatchMode.contains_substring_of_contains hhas)
  · split at hf
    · rename_i hactive
      obtain ⟨hhas, hinactive⟩ := Bool.and_eq_true_iff.1 hactive
      have hanywhere : asksForActive .substring text = true :=
        Bool.and_eq_true_iff.2 ⟨MatchMode.contains_substring_of_contains hhas, hinactive⟩
      rw [stateFilters, List.mem_append, if_pos hanywhere]
      exact .inr hf
    · cases hf

/-! ## Entities -/

theorem mentioned_ne_nil_iff {α : Type} {surface : α → String} {table : List α} :
    mentioned mode text surface table ≠ [] ↔ ∃ e ∈ table, mode.has text (surface e) = true := by
  simp only [has_iff_occursAt]
  constructor
  · intro hne
    obtain ⟨e, he⟩ := List.exists_mem_of_ne_nil _ hne
    obtain ⟨hmem, span, hspan, -⟩ := mem_mentioned_iff.1 he
    exact ⟨e, hmem, span, hspan⟩
  · rintro ⟨e, he, span, hspan⟩
    -- what is found may be hidden, but then by something around it that is not
    obtain ⟨e', he', -⟩ := exists_mention_around he hspan
    exact List.ne_nil_of_mem he'

theorem mentioned_entries_ne_nil_iff {α : Type} {table : List (Entry α)} :
    mentioned mode text Entry.surface table ≠ [] ↔
      ∃ s ∈ table.map (·.surface), mode.has text s = true := by
  rw [mentioned_ne_nil_iff]
  simp only [List.mem_map, exists_exists_and_eq_and]

theorem counterpartiesIn_ne_nil_iff {l : Lexicon} :
    counterpartiesIn mode l text ≠ [] ↔ ∃ s ∈ l.counterparties, mode.has text s = true := by
  rw [counterpartiesIn, ne_eq, eraseDups_eq_nil_iff, List.map_eq_nil_iff]
  exact mentioned_ne_nil_iff

/-- A product that is mentioned gives values, since the entries of a valid lexicon have some. -/
theorem productsIn_ne_nil_iff {l : Lexicon} (hl : l.Valid) :
    productsIn mode l text ≠ [] ↔
      ∃ s ∈ l.products.map (·.surface), mode.has text s = true := by
  rw [← mentioned_entries_ne_nil_iff, productsIn, ne_eq, ne_eq, eraseDups_eq_nil_iff,
    List.flatMap_eq_nil_iff, not_iff_not]
  constructor
  · intro hall
    refine List.eq_nil_iff_forall_not_mem.2 fun e he => ?_
    exact (hl.products e (mem_of_mem_mentioned he)).1 (hall e he)
  · intro hnil e he
    rw [hnil] at he
    cases he

theorem namesIn_ne_nil_iff {table : List (Entry String)} :
    namesIn mode table text ≠ [] ↔ ∃ s ∈ table.map (·.surface), mode.has text s = true := by
  rw [namesIn, ne_eq, eraseDups_eq_nil_iff, List.map_eq_nil_iff]
  exact mentioned_entries_ne_nil_iff

/-- The surfaces of the four classes of entities, with the fields that they restrict. -/
def Lexicon.entitySurfaces (l : Lexicon) : List (String × List String) :=
  [(counterpartyField, l.counterparties), (productField, l.products.map (·.surface)),
   (traderField, l.traders.map (·.surface)), (deskField, l.desks.map (·.surface))]

theorem exists_anyOf?_iff {field field' : String} {values : List String} :
    (∃ f, Filter.anyOf? field' values = some f ∧ f.field = field) ↔
      field' = field ∧ values ≠ [] := by
  constructor
  · rintro ⟨f, hf, rfl⟩
    refine ⟨(Filter.field_of_anyOf? hf).symm, fun hnil => ?_⟩
    rw [Filter.anyOf?_eq_none_iff.2 hnil] at hf
    cases hf
  · rintro ⟨rfl, hne⟩
    obtain ⟨f, hf⟩ := Option.ne_none_iff_exists'.1 (mt Filter.anyOf?_eq_none_iff.1 hne)
    exact ⟨f, hf, Filter.field_of_anyOf? hf⟩

theorem exists_entityFilter_iff {l : Lexicon} (hl : l.Valid) {field : String} :
    (∃ f ∈ entityFilters mode l text, f.field = field) ↔
      ∃ p ∈ l.entitySurfaces, p.1 = field ∧ ∃ s ∈ p.2, mode.has text s = true := by
  simp only [entityFilters, List.mem_filterMap, List.mem_cons, List.not_mem_nil, or_false, id_eq,
    or_and_right, exists_or, exists_eq_left, exists_anyOf?_iff, Lexicon.entitySurfaces,
    counterpartiesIn_ne_nil_iff, productsIn_ne_nil_iff hl, tradersIn, desksIn, namesIn_ne_nil_iff]

/-! ## Columns -/

theorem metricsIn_of_named {l : Lexicon} {type : ReportType} (h : namedMetrics mode l text ≠ []) :
    metricsIn mode l type text = namedMetrics mode l text := by
  rw [metricsIn, if_neg (mt List.isEmpty_iff.1 h)]

theorem namedMetrics_ne_nil {l : Lexicon} (hl : l.Valid) {e : Entry (List String)}
    (he : e ∈ l.metrics) (hhas : mode.has text e.surface = true) :
    namedMetrics mode l text ≠ [] := by
  intro hnil
  rw [(namedMetrics_eq_nil_iff hl).1 hnil e he] at hhas
  cases hhas

theorem FindsNoLess.metricsIn_subset (h : FindsNoLess mode text mode' text') {l : Lexicon}
    (hl : l.Valid) (type type' : ReportType)
    (hnamed : ∃ e ∈ l.metrics, mode.has text e.surface = true) :
    metricsIn mode l type text ⊆ metricsIn mode' l type' text' := by
  obtain ⟨e, he, hhas⟩ := hnamed
  rw [metricsIn_of_named (namedMetrics_ne_nil hl he hhas),
    metricsIn_of_named (namedMetrics_ne_nil hl he (h _ hhas))]
  exact h.namedMetrics_subset l

theorem subset_metricsIn {l : Lexicon} (hl : l.Valid) (type : ReportType)
    {e : Entry (List String)} (he : e ∈ l.metrics) (hhas : mode.has text e.surface = true) :
    e.value ⊆ metricsIn mode l type text := by
  rw [metricsIn_of_named (namedMetrics_ne_nil hl he hhas)]
  exact fun metric hmetric => mem_namedMetrics_iff.2 ⟨e, he, hmetric, hhas⟩

/-! ## Windows -/

theorem PeriodRule.phrases_eq_nil_iff {rule : PeriodRule} :
    rule.phrases = [] ↔ rule = lastDays ∨ rule = quarterOfYear ∨ rule = calendarYear := by
  cases rule <;> simp [phrases]

/-- A rule keeps its window if its phrase is found still; the rules for patterns are left open. -/
theorem FindsNoLess.window?_eq_some (h : FindsNoLess mode text mode' text') {now : Instant}
    (hpatterns : ∀ (rule : PeriodRule) (w : Window), rule.phrases = [] →
      rule.window? mode text now = some w → rule.window? mode' text' now = some w)
    {rule : PeriodRule} {w : Window} (hw : rule.window? mode text now = some w) :
    rule.window? mode' text' now = some w := by
  have hgiven : ∀ (applies applies' : Bool) (window : Option Window),
      (applies = true → applies' = true) → PeriodRule.given applies window = some w →
        PeriodRule.given applies' window = some w := by
    intro applies applies' window himp hsome
    rw [PeriodRule.given_eq_some_iff] at hsome ⊢
    exact ⟨himp hsome.1, hsome.2⟩
  cases rule with
  | today => exact hgiven _ _ _ (h _) hw
  | yesterday => exact hgiven _ _ _ (h _) hw
  | lastDays => exact hpatterns .lastDays w rfl hw
  | thisMonth => exact hgiven _ _ _ (h _) hw
  | lastMonth => exact hgiven _ _ _ (h _) hw
  | thisQuarter => exact hgiven _ _ _ (h _) hw
  | quarterOfYear => exact hpatterns .quarterOfYear w rfl hw
  | thisYear => exact hgiven _ _ _ h.hasAny hw
  | calendarYear => exact hpatterns .calendarYear w rfl hw

end Keywords

/-- If every window of a rule is kept, the first rule with a window comes no later, and the same
rule gives the same window. -/
theorem exists_firedRule?_earlier {mode mode' : MatchMode} {text text' : List Char} {now : Instant}
    (hkeep : ∀ (rule : PeriodRule) (w : Window), rule.window? mode text now = some w →
      rule.window? mode' text' now = some w) {rule : PeriodRule} {w : Window}
    (h : firedRule? mode text now = some (rule, w)) :
    ∃ rule' w', firedRule? mode' text' now = some (rule', w') ∧ rule'.rung ≤ rule.rung ∧
      (rule' = rule → w' = w) := by
  obtain ⟨a, -, a', -, ⟨rule', w'⟩, ha, ha', hfired, hle⟩ :=
    exists_findSome?_earlier
      (g := fun rule => (rule.window? mode' text' now).map fun w => (rule, w))
      (fun r b hb => by
        obtain ⟨w, hw, -⟩ := Option.map_eq_some_iff.1 hb
        exact ⟨_, Option.map_eq_some_iff.2 ⟨w, hkeep r w hw, rfl⟩⟩) h
  obtain ⟨v, hv, heq⟩ := Option.map_eq_some_iff.1 ha
  obtain ⟨v', hv', heq'⟩ := Option.map_eq_some_iff.1 ha'
  cases heq
  cases heq'
  refine ⟨_, _, hfired, hle, ?_⟩
  rintro rfl
  rw [hkeep _ _ hv, Option.some.injEq] at hv'
  exact hv'.symm

end ReportPlan
