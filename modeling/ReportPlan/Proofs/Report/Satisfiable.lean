import Mathlib.Algebra.Order.Ring.Rat
import Mathlib.Data.List.Nodup
import ReportPlan.Proofs.Report.WellFormed

/-! # Which compiled filters some record meets

The filters of a report hold together. Entities and thresholds have at most one filter for each
field, but each keyword for a state adds a filter of its own, and two of them may ask for different
states of the same field.

* `Cell`: what a record has in a field.
* `Filter.HoldsOf`, `Meets`: whether a cell meets a filter, and a record a list of them.
* `ConflictingStates`: a text has keywords for two states of the same field.
* `filters_satisfiable_iff`: some record meets the filters exactly if there is no such conflict.
-/

set_option autoImplicit false

namespace ReportPlan

/-! ## Records -/

/-- What a record has in a field. -/
inductive Cell where
  | text (s : String)
  | number (q : ℚ)

namespace Binary64

/-- The value of a finite number. -/
def toRat (x : Binary64) : ℚ :=
  if x.negative then -(x.numerator / x.denominator : ℚ) else x.numerator / x.denominator

/-- Whether a number is less than a rational one. -/
def Below (x : Binary64) (q : ℚ) : Prop :=
  if x.isFinite then x.toRat < q else x.negative = true

/-- Whether a number is greater than a rational one. -/
def Above (x : Binary64) (q : ℚ) : Prop :=
  if x.isFinite then q < x.toRat else x.negative = false

end Binary64

/-- Whether the cell in the field of a filter meets it. An operand that does not suit the operator
or the cell is not met. -/
def Filter.HoldsOf (f : Filter) (cell : Cell) : Prop :=
  match f.operator, f.value, cell with
  | .equals, .text s, .text t => t = s
  | .equals, .number x, .number q => x.isFinite = true ∧ q = x.toRat
  | .oneOf, .texts items, .text t => t ∈ items
  | .contains, .text s, .text t => s.toList <:+: t.toList
  | .greaterThan, .number x, .number q => x.Below q
  | .lessThan, .number x, .number q => x.Above q
  | .between, .texts [low, high], .text t => low ≤ t ∧ t ≤ high
  | _, _, _ => False

/-- Whether a record meets all filters of a list. -/
def Meets (record : String → Cell) (filters : List Filter) : Prop :=
  ∀ f ∈ filters, f.HoldsOf (record f.field)

/-- Whether a list has equalities of one field with different operands. -/
def HasConflict (filters : List Filter) : Prop :=
  ∃ f ∈ filters, ∃ g ∈ filters, f.operator = .equals ∧ g.operator = .equals ∧
    f.field = g.field ∧ f.value ≠ g.value

/-- Whether a text has keywords for two states of the same field. -/
def ConflictingStates (mode : MatchMode) (text : List Char) : Prop :=
  ∃ k ∈ stateKeywords, ∃ l ∈ stateKeywords, k.field = l.field ∧ k.value ≠ l.value ∧
    mode.has text k.keyword = true ∧ mode.has text l.keyword = true

/-! ## Single filters -/

/-- A filter that agrees with its operand is met by some cell. -/
theorem Filter.Agrees.exists_cell {f : Filter} (h : f.Agrees) : ∃ cell, f.HoldsOf cell := by
  cases h with
  | @equals _ s _ => exact ⟨.text s, rfl⟩
  | @oneOf _ items hlength _ _ =>
    obtain ⟨s, hs⟩ := List.exists_mem_of_length_pos (Nat.lt_of_lt_of_le Nat.zero_lt_two hlength)
    exact ⟨.text s, hs⟩
  | @greaterThan _ x hfinite =>
    refine ⟨.number (x.toRat + 1), ?_⟩
    show x.Below (x.toRat + 1)
    rw [Binary64.Below, if_pos hfinite]
    exact lt_add_one _
  | @lessThan _ x hfinite =>
    refine ⟨.number (x.toRat - 1), ?_⟩
    show x.Above (x.toRat - 1)
    rw [Binary64.Above, if_pos hfinite]
    exact sub_one_lt _

/-- Equalities with texts that one cell meets have the same operand. -/
theorem Filter.value_eq_of_holdsOf {f g : Filter} (hf : f.Agrees) (hg : g.Agrees)
    (hfequals : f.operator = .equals) (hgequals : g.operator = .equals) {cell : Cell}
    (hfcell : f.HoldsOf cell) (hgcell : g.HoldsOf cell) : f.value = g.value := by
  cases hf with
  | equals _ =>
    cases hg with
    | equals _ =>
      cases cell with
      | text t =>
        have hs : t = _ := hfcell
        have ht : t = _ := hgcell
        rw [← hs, ← ht]
      | number q => cases hfcell
    | _ => cases hgequals
  | _ => cases hfequals

/-! ## Lists of filters -/

/-- If the field tells the filter, a record is put together field by field. -/
theorem exists_meets {filters : List Filter} (hagree : ∀ f ∈ filters, f.Agrees)
    (hfield : ∀ f ∈ filters, ∀ g ∈ filters, f.field = g.field → f = g) :
    ∃ record, Meets record filters := by
  have hcell : ∀ field : String, ∃ cell, ∀ f ∈ filters, f.field = field → f.HoldsOf cell := by
    intro field
    by_cases h : ∃ f ∈ filters, f.field = field
    · obtain ⟨f, hf, rfl⟩ := h
      obtain ⟨cell, hmeets⟩ := (hagree f hf).exists_cell
      refine ⟨cell, fun g hg hgf => ?_⟩
      rw [hfield g hg f hf hgf]
      exact hmeets
    · exact ⟨.text "", fun f hf hff => absurd ⟨f, hf, hff⟩ h⟩
  choose record hrecord using hcell
  exact ⟨record, fun f hf => hrecord f.field f hf rfl⟩

theorem not_meets_of_hasConflict {filters : List Filter} (hagree : ∀ f ∈ filters, f.Agrees)
    (h : HasConflict filters) (record : String → Cell) : ¬Meets record filters := by
  obtain ⟨f, hf, g, hg, hfequals, hgequals, hfield, hvalue⟩ := h
  intro hmeets
  have hfcell := hmeets f hf
  have hgcell := hmeets g hg
  rw [← hfield] at hgcell
  exact hvalue (Filter.value_eq_of_holdsOf (hagree f hf) (hagree g hg) hfequals hgequals
    hfcell hgcell)

/-! ## Compiled filters -/

theorem field_mem_of_mem_stateFilters {mode : MatchMode} {text : List Char} {f : Filter}
    (hf : f ∈ stateFilters mode text) : f.field ∈ allStateFilters.map (·.field) :=
  List.mem_map_of_mem ((stateFilters_sublist mode text).subset hf)

/-- No field belongs to two blocks, and within the first two blocks none occurs twice. -/
theorem fields_disjoint :
    (entityFields ++ thresholdFields).Nodup ∧
      ∀ field ∈ entityFields ++ thresholdFields, field ∉ allStateFilters.map (·.field) := by
  decide +kernel

/-- Compiled filters on the same field are the same filter, or both come from states. -/
theorem Compiler.eq_or_mem_stateFilters {c : Compiler} {text : List Char} {f g : Filter}
    (hf : f ∈ c.filters text) (hg : g ∈ c.filters text) (hfield : f.field = g.field) :
    f = g ∨ (f ∈ stateFilters c.mode text ∧ g ∈ stateFilters c.mode text) := by
  have hfields : ((entityFilters c.mode c.lexicon text ++ thresholds text).map (·.field)).Sublist
      (entityFields ++ thresholdFields) := by
    rw [List.map_append]
    exact (entityFilters_sublist _ _ _).append (thresholds_sublist _)
  have hapart : ∀ f ∈ entityFilters c.mode c.lexicon text ++ thresholds text,
      ∀ g ∈ stateFilters c.mode text, f.field ≠ g.field := by
    intro f hf g hg heq
    exact fields_disjoint.2 _ (hfields.subset (List.mem_map_of_mem hf))
      (heq ▸ field_mem_of_mem_stateFilters hg)
  rw [filters_eq, List.mem_append] at hf hg
  rcases hf with hf | hf
  · rcases hg with hg | hg
    · exact .inl (List.inj_on_of_nodup_map (fields_disjoint.1.sublist hfields) hf hg hfield)
    · exact absurd hfield (hapart f hf g hg)
  · rcases hg with hg | hg
    · exact absurd hfield.symm (hapart g hg f hf)
    · exact .inr ⟨hf, hg⟩

theorem mem_stateFilters_of_has {mode : MatchMode} {text : List Char} {k : StateKeyword}
    (hk : k ∈ stateKeywords) (h : mode.has text k.keyword = true) :
    Filter.equals k.field k.value ∈ stateFilters mode text := by
  rw [stateFilters, List.mem_append]
  exact .inl (List.mem_map.2 ⟨k, List.mem_filter.2 ⟨hk, h⟩, rfl⟩)

/-- A filter on a state comes from a keyword of the text, or is the one on active records. -/
theorem exists_keyword_of_mem_stateFilters {mode : MatchMode} {text : List Char} {f : Filter}
    (hf : f ∈ stateFilters mode text) :
    (∃ k ∈ stateKeywords, mode.has text k.keyword = true ∧ f = .equals k.field k.value) ∨
      asksForActive mode text = true ∧ f = .equals lifecycleField "Active" := by
  rw [stateFilters, List.mem_append] at hf
  rcases hf with hf | hf
  · obtain ⟨k, hk, rfl⟩ := List.mem_map.1 hf
    obtain ⟨hmem, hhas⟩ := List.mem_filter.1 hk
    exact .inl ⟨k, hmem, hhas, rfl⟩
  · split at hf
    · rename_i hactive
      exact .inr ⟨hactive, List.mem_singleton.1 hf⟩
    · cases hf

theorem field_ne_lifecycle {k : StateKeyword} (hk : k ∈ stateKeywords) :
    k.field ≠ lifecycleField := by
  have hall : ∀ k ∈ stateKeywords, k.field ≠ lifecycleField := by decide +kernel
  exact hall k hk

/-- Filters on states conflict only through keywords that conflict. -/
theorem eq_or_conflictingStates {mode : MatchMode} {text : List Char} {f g : Filter}
    (hf : f ∈ stateFilters mode text) (hg : g ∈ stateFilters mode text)
    (hfield : f.field = g.field) : f = g ∨ ConflictingStates mode text := by
  rcases exists_keyword_of_mem_stateFilters hf with ⟨k, hk, hkhas, rfl⟩ | ⟨-, rfl⟩
  · rcases exists_keyword_of_mem_stateFilters hg with ⟨l, hl, hlhas, rfl⟩ | ⟨-, rfl⟩
    · have hkl : k.field = l.field := hfield
      by_cases hvalue : k.value = l.value
      · left
        rw [hkl, hvalue]
      · exact .inr ⟨k, hk, l, hl, hkl, hvalue, hkhas, hlhas⟩
    · exact absurd hfield (field_ne_lifecycle hk)
  · rcases exists_keyword_of_mem_stateFilters hg with ⟨l, hl, -, rfl⟩ | ⟨-, rfl⟩
    · exact absurd hfield.symm (field_ne_lifecycle hl)
    · exact .inl rfl

theorem Compiler.hasConflict_filters_iff {c : Compiler} {text : List Char} :
    HasConflict (c.filters text) ↔ ConflictingStates c.mode text := by
  constructor
  · rintro ⟨f, hf, g, hg, -, -, hfield, hvalue⟩
    rcases c.eq_or_mem_stateFilters hf hg hfield with rfl | ⟨hfstate, hgstate⟩
    · exact absurd rfl hvalue
    · rcases eq_or_conflictingStates hfstate hgstate hfield with rfl | hconflict
      · exact absurd rfl hvalue
      · exact hconflict
  · rintro ⟨k, hk, l, hl, hfield, hvalue, hkhas, hlhas⟩
    have hmem : ∀ f ∈ stateFilters c.mode text, f ∈ c.filters text := by
      intro f hf
      rw [filters_eq]
      exact List.mem_append_right _ hf
    refine ⟨_, hmem _ (mem_stateFilters_of_has hk hkhas), _,
      hmem _ (mem_stateFilters_of_has hl hlhas), rfl, rfl, hfield, ?_⟩
    intro heq
    exact hvalue (Operand.text.inj heq)

/-! ## Reports -/

/-- Whatever is configured, the filters of a report contradict each other exactly if the query has
keywords for two states of the same field, and in all other cases some record meets them. -/
theorem filters_satisfiable_iff {config : Config} {c : Compiler}
    (h : Compiler.configure config.lexicon config.mode = .ok c) (query : String) (now : Instant) :
    (HasConflict (c.compile query now).filters ↔
      ConflictingStates c.mode (Text.normalize query.toList)) ∧
    ((∃ record, Meets record (c.compile query now).filters) ↔
      ¬ConflictingStates c.mode (Text.normalize query.toList)) := by
  have hagree : ∀ f ∈ c.filters (Text.normalize query.toList), f.Agrees :=
    fun f hf => Compiler.agrees_of_mem_filters (Compiler.valid_of_configure h) hf
  rw [c.compile_filters]
  refine ⟨Compiler.hasConflict_filters_iff, ?_⟩
  constructor
  · rintro ⟨record, hmeets⟩ hconflict
    exact not_meets_of_hasConflict hagree (Compiler.hasConflict_filters_iff.2 hconflict) record
      hmeets
  · intro hnone
    refine exists_meets hagree fun f hf g hg hfield => ?_
    rcases c.eq_or_mem_stateFilters hf hg hfield with heq | ⟨hfstate, hgstate⟩
    · exact heq
    · exact (eq_or_conflictingStates hfstate hgstate hfield).resolve_right hnone

/-- Keywords for a risk category and for a settlement state leave a record to be found. -/
theorem filters_satisfiable_highRiskSettled :
    ∃ record, Meets record (Compiler.standard.compile "High risk settled trades above 2m"
      (.startOf ⟨2026, 10, 19, by decide, by decide, by decide⟩)).filters := by
  have h : Compiler.configure ({} : Config).lexicon ({} : Config).mode = .ok .standard := rfl
  refine (filters_satisfiable_iff h _ _).2.2 ?_
  unfold ConflictingStates
  decide +kernel

/-- Keywords for two settlement states leave none: each adds its own equality. -/
theorem settledAndFailed_unsatisfiable :
    Compiler.configure ({} : Config).lexicon ({} : Config).mode = .ok .standard ∧
      HasConflict (Compiler.standard.compile "settled and failed trades"
        (.startOf ⟨2026, 10, 19, by decide, by decide, by decide⟩)).filters ∧
      ¬∃ record, Meets record (Compiler.standard.compile "settled and failed trades"
        (.startOf ⟨2026, 10, 19, by decide, by decide, by decide⟩)).filters := by
  have h : Compiler.configure ({} : Config).lexicon ({} : Config).mode = .ok .standard := rfl
  have hstates : ConflictingStates .substring
      (Text.normalize "settled and failed trades".toList) := by
    unfold ConflictingStates
    decide +kernel
  have hconflict : HasConflict (Compiler.standard.filters
      (Text.normalize "settled and failed trades".toList)) :=
    Compiler.hasConflict_filters_iff.2 hstates
  rw [Compiler.compile_filters]
  refine ⟨h, hconflict, ?_⟩
  rintro ⟨record, hmeets⟩
  exact not_meets_of_hasConflict
    (fun f hf => Compiler.agrees_of_mem_filters (Compiler.valid_of_configure h) hf)
    hconflict record hmeets

end ReportPlan
