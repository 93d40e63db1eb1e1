import ReportPlan.Compiler
import ReportPlan.Proofs.Covering
import ReportPlan.Proofs.Lists

/-! # Texts in reports

The texts of the filters of a report are the names of entities that the query mentions and the words
for states. The name of a report is made of these texts and of labels that are always the same;
nothing of the query itself gets into either.

* `textsOf`: the texts of a list of filters.
* `Compiler.textsOf_filters`: those of the filters of a query.
* `Lexicon.canonicalNames`, `Compiler.canonicalNamesIn`: the names that a lexicon has for entities
  other than counterparties, and those that a query asks for.
* `Compiler.forall_mem_textsOf_filters_iff`: what holds of all texts of a query.
* `fixedParts`, `mem_titleParts`: what a part of a name is.
-/

set_option autoImplicit false

namespace ReportPlan

/-! ## Texts of filters -/

/-- The texts of filters, in their order. -/
def textsOf (filters : List Filter) : List String :=
  filters.flatMap (·.value.allTexts)

theorem textsOf_append (fs gs : List Filter) : textsOf (fs ++ gs) = textsOf fs ++ textsOf gs :=
  List.flatMap_append

theorem mem_textsOf_iff {filters : List Filter} {s : String} :
    s ∈ textsOf filters ↔ ∃ f ∈ filters, s ∈ f.value.allTexts :=
  List.mem_flatMap

theorem textsOf_anyOf? (field : String) (values : List String) :
    textsOf (Filter.anyOf? field values).toList = values := by
  match values with
  | [] => rfl
  | [_] => rfl
  | _ :: _ :: _ => simp [Filter.anyOf?, textsOf, Operand.allTexts]

theorem textsOf_entityFilters (mode : MatchMode) (l : Lexicon) (text : List Char) :
    textsOf (entityFilters mode l text) =
      counterpartiesIn mode l text ++ productsIn mode l text ++ tradersIn mode l text ++
        desksIn mode l text := by
  have hjoin : ∀ os : List (Option Filter),
      textsOf (os.filterMap id) = os.flatMap fun o => textsOf o.toList := by
    intro os
    induction os with
    | nil => rfl
    | cons o os ih =>
      cases o with
      | none => exact ih
      | some f =>
        show textsOf ([f] ++ os.filterMap id) = _
        rw [textsOf_append, ih, List.flatMap_cons]
        rfl
  simp only [entityFilters, hjoin, List.flatMap_cons, List.flatMap_nil, textsOf_anyOf?,
    List.append_nil, List.append_assoc]

/-- Thresholds are numbers. -/
theorem textsOf_thresholds (text : List Char) : textsOf (thresholds text) = [] := by
  refine List.flatMap_eq_nil_iff.2 fun f hf => ?_
  obtain ⟨metric, -, h⟩ := List.mem_filterMap.1 hf
  simp only [threshold?, Option.bind_eq_bind, Option.bind_eq_some_iff, Option.some.injEq] at h
  obtain ⟨m, -, c, -, n, -, x, -, rfl⟩ := h
  split <;> rfl

/-- The words for states. -/
def stateTexts : List String :=
  stateKeywords.map (·.value) ++ ["Active"]

theorem textsOf_stateFilters_subset (mode : MatchMode) (text : List Char) :
    textsOf (stateFilters mode text) ⊆ stateTexts := by
  intro s hs
  obtain ⟨f, hf, hs⟩ := mem_textsOf_iff.1 hs
  rw [stateFilters, List.mem_append] at hf
  rw [stateTexts, List.mem_append]
  rcases hf with hf | hf
  · obtain ⟨k, hk, rfl⟩ := List.mem_map.1 hf
    rw [List.mem_singleton.1 hs]
    exact .inl (List.mem_map.2 ⟨k, (List.mem_filter.1 hk).1, rfl⟩)
  · split at hf
    · rw [List.mem_singleton.1 hf] at hs
      exact .inr hs
    · cases hf

theorem Compiler.textsOf_filters (c : Compiler) (text : List Char) :
    textsOf (c.filters text) =
      counterpartiesIn c.mode c.lexicon text ++ productsIn c.mode c.lexicon text ++
        tradersIn c.mode c.lexicon text ++ desksIn c.mode c.lexicon text ++
        textsOf (stateFilters c.mode text) := by
  rw [filters_eq, textsOf_append, textsOf_append, textsOf_entityFilters, textsOf_thresholds,
    List.append_nil]

/-! ## Names of entities -/

section Entities

variable {mode : MatchMode} {l : Lexicon} {text : List Char} {name : String}

theorem exists_of_mem_counterpartiesIn (h : name ∈ counterpartiesIn mode l text) :
    ∃ surface ∈ l.counterparties, mode.has text surface = true ∧ surface.titleCase = name := by
  rw [counterpartiesIn, List.mem_eraseDups] at h
  obtain ⟨surface, hsurface, rfl⟩ := List.mem_map.1 h
  exact ⟨surface, mem_of_mem_mentioned hsurface, has_of_mem_mentioned hsurface, rfl⟩

theorem exists_of_mem_productsIn (h : name ∈ productsIn mode l text) :
    ∃ e ∈ l.products, mode.has text e.surface = true ∧ name ∈ e.value := by
  rw [productsIn, List.mem_eraseDups] at h
  obtain ⟨e, he, hvalue⟩ := List.mem_flatMap.1 h
  exact ⟨e, mem_of_mem_mentioned he, has_of_mem_mentioned he, hvalue⟩

theorem exists_of_mem_namesIn {table : List (Entry String)} (h : name ∈ namesIn mode table text) :
    ∃ e ∈ table, mode.has text e.surface = true ∧ e.value = name := by
  rw [namesIn, List.mem_eraseDups] at h
  obtain ⟨e, he, rfl⟩ := List.mem_map.1 h
  exact ⟨e, mem_of_mem_mentioned he, has_of_mem_mentioned he, rfl⟩

end Entities

/-- The names of products, traders and desks, which stand in reports as the lexicon has them. -/
def Lexicon.canonicalNames (l : Lexicon) : List String :=
  l.products.flatMap (·.value) ++ l.traders.map (·.value) ++ l.desks.map (·.value)

/-- The canonical names that a normalized query asks for. -/
def Compiler.canonicalNamesIn (c : Compiler) (text : List Char) : List String :=
  productsIn c.mode c.lexicon text ++ tradersIn c.mode c.lexicon text ++
    desksIn c.mode c.lexicon text

theorem Compiler.canonicalNamesIn_subset (c : Compiler) (text : List Char) :
    c.canonicalNamesIn text ⊆ c.lexicon.canonicalNames := by
  have hnames : ∀ {table : List (Entry String)} {name : String},
      name ∈ namesIn c.mode table text → name ∈ table.map (·.value) := by
    intro table name hname
    obtain ⟨e, he, -, rfl⟩ := exists_of_mem_namesIn hname
    exact List.mem_map_of_mem he
  intro name hname
  simp only [canonicalNamesIn, Lexicon.canonicalNames, List.mem_append] at hname ⊢
  rcases hname with (hname | hname) | hname
  · obtain ⟨e, he, -, hvalue⟩ := exists_of_mem_productsIn hname
    exact .inl (.inl (List.mem_flatMap.2 ⟨e, he, hvalue⟩))
  · exact .inl (.inr (hnames hname))
  · exact .inr (hnames hname)

/-- What holds of texts in title case and of the words for states holds of all texts of a query if
it holds of the canonical names that this asks for. -/
theorem Compiler.forall_mem_textsOf_filters_iff {P : String → Prop} {c : Compiler}
    (hcounterparties : ∀ surface ∈ c.lexicon.counterparties, P surface.titleCase)
    (hstates : ∀ s ∈ stateTexts, P s) {text : List Char} :
    (∀ s ∈ textsOf (c.filters text), P s) ↔ ∀ name ∈ c.canonicalNamesIn text, P name := by
  have hfirst : ∀ s ∈ counterpartiesIn c.mode c.lexicon text, P s := by
    intro s hs
    obtain ⟨surface, hsurface, -, rfl⟩ := exists_of_mem_counterpartiesIn hs
    exact hcounterparties surface hsurface
  have hlast : ∀ s ∈ textsOf (stateFilters c.mode text), P s := fun s hs =>
    hstates s (textsOf_stateFilters_subset _ _ hs)
  simp only [textsOf_filters, canonicalNamesIn, List.forall_mem_append, iff_true_intro hfirst,
    iff_true_intro hlast, true_and, and_true]

/-! ## Parts of names -/

/-- The parts of names that do not depend on a lexicon. -/
def fixedParts : List String :=
  ReportType.all.map (·.label) ++ otherWindowLabel :: windowLabels.map (·.2)

theorem label_mem_fixedParts (type : ReportType) : type.label ∈ fixedParts := by
  refine List.mem_append_left _ (List.mem_map.2 ⟨type, ?_, rfl⟩)
  cases type <;> decide

theorem windowLabel_mem_fixedParts (mode : MatchMode) (query : List Char) :
    windowLabel mode query ∈ fixedParts := by
  refine List.mem_append_right _ ?_
  unfold windowLabel
  split
  · rename_i phrase label hfind
    exact List.mem_cons_of_mem _ (List.mem_map.2 ⟨_, List.mem_of_find?_eq_some hfind, rfl⟩)
  · exact List.mem_cons_self

theorem Operand.mem_allTexts_of_firstText {o : Operand} {s : String} (h : o.firstText = some s) :
    s ∈ o.allTexts := by
  cases o with
  | number _ => cases h
  | text t =>
    cases h
    exact List.mem_singleton_self s
  | texts items => exact List.mem_of_head? h

theorem allTexts_subset_textsOf {filters : List Filter} {field : String} {f : Filter}
    (hf : Filter.on? filters field = some f) : f.value.allTexts ⊆ textsOf filters :=
  fun _ hs => mem_textsOf_iff.2 ⟨f, List.mem_of_find?_eq_some hf, hs⟩

/-- A part of a name is a fixed one, or texts of the filters with commas between them. -/
theorem mem_titleParts {mode : MatchMode} {query : List Char} {type : ReportType}
    {filters : List Filter} {window : Window} {part : String}
    (h : part ∈ titleParts mode query type filters window) :
    part ∈ fixedParts ∨
      ∃ values, values ≠ [] ∧ values ⊆ textsOf filters ∧ part = ", ".intercalate values := by
  simp only [titleParts, List.mem_append] at h
  rcases h with ((h | h) | h) | h
  · unfold typePart at h
    split at h
    · cases h
    · rw [List.mem_singleton.1 h]
      exact .inl (label_mem_fixedParts type)
  · unfold counterpartyPart at h
    rw [Option.mem_toList, Option.bind_eq_some_iff] at h
    obtain ⟨f, hf, hfirst⟩ := h
    refine .inr ⟨[part], List.cons_ne_nil _ _, fun s hs => ?_, String.intercalate_singleton.symm⟩
    rw [List.mem_singleton.1 hs]
    exact allTexts_subset_textsOf hf (Operand.mem_allTexts_of_firstText hfirst)
  · unfold productPart at h
    split at h
    · rename_i f hf
      split at h
      · cases h
      · rename_i hne
        rw [List.isEmpty_iff] at hne
        exact .inr ⟨_, hne, allTexts_subset_textsOf hf, List.mem_singleton.1 h⟩
    · cases h
  · unfold windowPart at h
    split at h
    · cases h
    · rw [List.mem_singleton.1 h]
      exact .inl (windowLabel_mem_fixedParts mode query)

end ReportPlan
