import ReportPlan.Config.Basic
import ReportPlan.Proofs.Lexicon.Merging
import ReportPlan.Proofs.Matching.Finding
import ReportPlan.Proofs.Report.Refinement

/-! # Surfaces that an operator has configured

A report looks at the tables of a lexicon only through the surfaces that occur in the query: what
does not occur is not mentioned, covers nothing and selects no columns. So a configuration changes
nothing where none of its surfaces occur. Where one of them is written between blanks, the normal
form of the query contains it, and matching anywhere finds it.

* `mentioned_filter_has`: entities are mentioned as if the table had only what is found.
* `FindsSame`: two lexicons have the same entries for what is found in a text.
* `Compiler.compile_eq_of_findsSame`: then their reports are the same.
* `filter_putEntries`, `filter_addSurfaces`: a merge is seen only where a merged surface is.
* `Compiler.compile_eq_builtin`: surfaces that do not occur change nothing.
* `Writes`: a query has a surface between blanks, in any letter case and spacing.
* `Compiler.finds_configured`: surfaces are found where a query writes them.
-/

set_option autoImplicit false

namespace ReportPlan

variable {α : Type}

/-! ## What is found of a table -/

section Found

variable {mode : MatchMode} {text : List Char}

theorem coveredAt_filter_has_iff {surface : α → String} {table : List α} {s : String}
    {span : Span} :
    CoveredAt mode text surface (table.filter fun e => mode.has text (surface e)) s span ↔
      CoveredAt mode text surface table s span := by
  constructor
  · rintro ⟨e, he, outer, houter, hlonger⟩
    exact ⟨e, List.mem_of_mem_filter he, outer, houter, hlonger⟩
  · rintro ⟨e, he, outer, houter, hlonger⟩
    exact ⟨e, List.mem_filter.2 ⟨he, has_iff_occursAt.2 ⟨outer, houter⟩⟩, outer, houter, hlonger⟩

/-- Surfaces that are not found neither are mentioned nor cover others. -/
theorem mentioned_filter_has (mode : MatchMode) (text : List Char) (surface : α → String)
    (table : List α) :
    mentioned mode text surface (table.filter fun e => mode.has text (surface e)) =
      mentioned mode text surface table := by
  classical
  rw [mentioned_eq_filter, mentioned_eq_filter, List.filter_filter]
  refine List.filter_congr fun e _ => ?_
  simp only [coveredAt_filter_has_iff]
  rw [Bool.and_eq_left_iff_imp, decide_eq_true_iff]
  rintro ⟨span, hspan, -⟩
  exact has_iff_occursAt.2 ⟨span, hspan⟩

/-- The entries of a table whose surfaces are found. -/
def foundEntries (mode : MatchMode) (text : List Char) (table : List (Entry α)) :
    List (Entry α) :=
  table.filter fun e => mode.has text e.surface

/-- Two lexicons have the same surfaces and the same values for all that is found in a text. -/
structure FindsSame (mode : MatchMode) (text : List Char) (l l' : Lexicon) : Prop where
  counterparties : l.counterparties.filter (mode.has text ·) =
    l'.counterparties.filter (mode.has text ·)
  products : foundEntries mode text l.products = foundEntries mode text l'.products
  traders : foundEntries mode text l.traders = foundEntries mode text l'.traders
  desks : foundEntries mode text l.desks = foundEntries mode text l'.desks
  metrics : foundEntries mode text l.metrics = foundEntries mode text l'.metrics

theorem mentioned_congr {surface : α → String} {table table' : List α}
    (h : (table.filter fun e => mode.has text (surface e)) =
      table'.filter fun e => mode.has text (surface e)) :
    mentioned mode text surface table = mentioned mode text surface table' := by
  rw [← mentioned_filter_has, h, mentioned_filter_has]

theorem FindsSame.entityFilters_eq {l l' : Lexicon} (h : FindsSame mode text l l') :
    entityFilters mode l text = entityFilters mode l' text := by
  have hcounterparties : counterpartiesIn mode l text = counterpartiesIn mode l' text := by
    have hmentioned : mentioned mode text id l.counterparties =
        mentioned mode text id l'.counterparties := mentioned_congr h.counterparties
    rw [counterpartiesIn, counterpartiesIn, hmentioned]
  have hproducts : productsIn mode l text = productsIn mode l' text := by
    rw [productsIn, productsIn, mentioned_congr h.products]
  have htraders : tradersIn mode l text = tradersIn mode l' text := by
    rw [tradersIn, tradersIn, namesIn, namesIn, mentioned_congr h.traders]
  have hdesks : desksIn mode l text = desksIn mode l' text := by
    rw [desksIn, desksIn, namesIn, namesIn, mentioned_congr h.desks]
  rw [entityFilters, entityFilters, hcounterparties, hproducts, htraders, hdesks]

theorem FindsSame.metricsIn_eq {l l' : Lexicon} (h : FindsSame mode text l l')
    (type : ReportType) : metricsIn mode l type text = metricsIn mode l' type text := by
  have hnamed : namedMetrics mode l text = namedMetrics mode l' text := by
    have hfound := h.metrics
    unfold foundEntries at hfound
    rw [namedMetrics, namedMetrics, hfound]
  rw [metricsIn, metricsIn, hnamed]

theorem Compiler.compile_eq_of_findsSame {l l' : Lexicon} {query : String}
    (h : FindsSame mode (Text.normalize query.toList) l l') (now : Instant) :
    Compiler.compile ⟨l, mode⟩ query now = Compiler.compile ⟨l', mode⟩ query now := by
  have hfilters : (Compiler.mk l mode).filters (Text.normalize query.toList) =
      (Compiler.mk l' mode).filters (Text.normalize query.toList) := by
    rw [Compiler.filters_eq, Compiler.filters_eq, h.entityFilters_eq]
  simp only [Compiler.compile, hfilters, h.metricsIn_eq]

end Found

/-! ## What a merge changes -/

section Merge

variable {p : String → Bool}

theorem filter_putSurface {surface : String} (h : p surface = false) (table : List String) :
    (putSurface surface table).filter p = table.filter p := by
  rw [putSurface]
  split
  · rfl
  · rw [List.filter_append, List.filter_cons_of_neg (by simp [h]), List.filter_nil,
      List.append_nil]

theorem filter_addSurfaces {surfaces : List String} (h : ∀ s ∈ surfaces, p s = false)
    (base : List String) : (addSurfaces base surfaces).filter p = base.filter p := by
  induction surfaces generalizing base with
  | nil => rfl
  | cons s surfaces ih =>
    rw [← filter_putSurface (h s List.mem_cons_self) base]
    exact ih (fun s' hs' => h s' (List.mem_cons_of_mem _ hs')) _

theorem filter_putEntry {surface : String} (h : p surface = false) (value : α)
    (table : List (Entry α)) :
    (putEntry surface value table).filter (fun e => p e.surface) =
      table.filter fun e => p e.surface := by
  induction table with
  | nil => simp [putEntry, h]
  | cons e rest ih =>
    rw [putEntry]
    split
    · rename_i heq
      -- the entry that is replaced has the same surface, and neither is kept
      simp [heq, h]
    · rw [List.filter_cons, List.filter_cons, ih]

theorem filter_putEntries {entries : List (Entry α)} (h : ∀ e ∈ entries, p e.surface = false)
    (base : List (Entry α)) :
    (putEntries base entries).filter (fun e => p e.surface) =
      base.filter fun e => p e.surface := by
  induction entries generalizing base with
  | nil => rfl
  | cons e entries ih =>
    rw [← filter_putEntry (h e List.mem_cons_self) e.value base]
    exact ih (fun e' he' => h e' (List.mem_cons_of_mem _ he')) _

theorem filter_extendSurfaces {base raws result : List String}
    (h : extendSurfaces base raws = .ok result) (hraws : ∀ raw ∈ raws, p raw.normalize = false) :
    result.filter p = base.filter p := by
  obtain ⟨-, rfl⟩ := extendSurfaces_eq_ok h
  refine filter_addSurfaces (fun s hs => ?_) base
  obtain ⟨raw, hraw, rfl⟩ := List.mem_map.1 hs
  exact hraws raw hraw

theorem filter_extendEntries {table : Table} {check : Table → String → α → Except LexiconError α}
    {clean : α → α}
    (hcheck : ∀ surface value checked, check table surface value = .ok checked →
      checked = clean value)
    {base result : List (Entry α)} {raws : Dictionary α}
    (h : extendEntries table check base raws = .ok result)
    (hraws : ∀ raw ∈ raws.entries, p raw.1.normalize = false) :
    (result.filter fun e => p e.surface) = base.filter fun e => p e.surface := by
  obtain ⟨-, rfl⟩ := extendEntries_eq_ok hcheck h
  refine filter_putEntries (fun e he => ?_) base
  obtain ⟨raw, hraw, rfl⟩ := List.mem_map.1 he
  exact hraws raw hraw

end Merge

/-! ## Configured surfaces -/

namespace Extension

/-- The raw surfaces of the four classes of entities, with the fields that these restrict. -/
def entitySurfaces (x : Extension) : List (String × List String) :=
  [(counterpartyField, x.counterparties), (productField, x.products.entries.map (·.1)),
   (traderField, x.traders.entries.map (·.1)), (deskField, x.desks.entries.map (·.1))]

/-- The raw surfaces of the table of metrics. -/
def metricSurfaces (x : Extension) : List String :=
  x.metrics.entries.map (·.1)

/-- The raw surfaces of all five tables. -/
def surfaces (x : Extension) : List String :=
  x.entitySurfaces.flatMap (·.2) ++ x.metricSurfaces

end Extension

theorem findsSame_builtin {x : Extension} {l : Lexicon} (h : Lexicon.extend x = .ok l)
    {mode : MatchMode} {text : List Char}
    (habsent : ∀ raw ∈ x.surfaces, mode.has text raw.normalize = false) :
    FindsSame mode text l .builtin := by
  obtain ⟨hc, hp, hm, ht, hd⟩ := Lexicon.extend_eq_ok h
  simp only [Extension.surfaces, Extension.entitySurfaces, Extension.metricSurfaces,
    List.flatMap_cons, List.flatMap_nil, List.append_nil, List.forall_mem_append,
    List.forall_mem_map] at habsent
  obtain ⟨⟨hcs, hps, hts, hds⟩, hms⟩ := habsent
  constructor
  · exact filter_extendSurfaces hc hcs
  · exact filter_extendEntries (fun _ _ _ hv => (eq_trimValues_of_checkValues hv).1) hp hps
  · exact filter_extendEntries (fun _ _ _ hv => (eq_trimBlanks_of_checkCanonical hv).1) ht hts
  · exact filter_extendEntries (fun _ _ _ hv => (eq_trimBlanks_of_checkCanonical hv).1) hd hds
  · exact filter_extendEntries (fun _ _ _ hv => (eq_trimValues_of_checkValues hv).1) hm hms

/-- If no configured surface is part of the normal form of a query, the report is that of the
built-in lexicon. -/
theorem Compiler.compile_eq_builtin {config : Config} {c : Compiler}
    (h : configure config.lexicon config.mode = .ok c) (query : String) (now : Instant)
    (habsent : ∀ raw ∈ config.lexicon.surfaces,
      ¬raw.normalize.toList <:+: Text.normalize query.toList) :
    c.compile query now = Compiler.compile ⟨.builtin, config.mode⟩ query now := by
  obtain ⟨hl, hmode⟩ := configure_eq_ok h
  have hfound : ∀ raw ∈ config.lexicon.surfaces,
      config.mode.has (Text.normalize query.toList) raw.normalize = false := by
    intro raw hraw
    rw [← Bool.not_eq_true]
    exact fun hhas => habsent raw hraw (MatchMode.infix_of_has hhas)
  obtain ⟨l, mode⟩ := c
  obtain rfl : mode = config.mode := hmode
  exact compile_eq_of_findsSame (findsSame_builtin hl hfound) now

/-- A bank and products of the operator's own, one of which replaces a built-in one: the built-in
lexicon answers a query on others. -/
theorem Compiler.compile_eq_builtin_swaps :
    ∃ c, configure { Extension.empty with
          counterparties := ["  Providus   Bank "]
          products := .ofEntries [(" FX", ["FX Swap"]), ("Sukuk", ["FGN Bonds"])] }
        .wordBoundary = .ok c ∧
      (∀ raw ∈ ["  Providus   Bank ", " FX", "Sukuk"],
        ¬raw.normalize.toList <:+: Text.normalize "UBA swaps above 5m".toList) ∧
      c.compile "UBA swaps above 5m" (.startOf ⟨2026, 10, 19, by decide, by decide, by decide⟩) =
        Compiler.compile ⟨.builtin, .wordBoundary⟩ "UBA swaps above 5m"
          (.startOf ⟨2026, 10, 19, by decide, by decide, by decide⟩) := by
  let config : Config :=
    { mode := .wordBoundary
      lexicon := { Extension.empty with
        counterparties := ["  Providus   Bank "]
        products := .ofEntries [(" FX", ["FX Swap"]), ("Sukuk", ["FGN Bonds"])] } }
  have h : ∃ c, configure config.lexicon config.mode = .ok c := ⟨_, rfl⟩
  obtain ⟨c, hc⟩ := h
  have habsent : ∀ raw ∈ config.lexicon.surfaces,
      ¬raw.normalize.toList <:+: Text.normalize "UBA swaps above 5m".toList := by decide +kernel
  exact ⟨c, hc, habsent, compile_eq_builtin hc _ _ habsent⟩

/-! ## Written surfaces -/

/-- A query has a part between blanks or its ends that has the normal form of a surface. -/
def Writes (query raw : String) : Prop :=
  ∃ s m t, query.toList = s ++ m ++ t ∧ (s = [] ∨ s.getLast?.any Text.isBlank = true) ∧
    (t = [] ∨ t.head?.any Text.isBlank = true) ∧ Text.normalize m = raw.normalize.toList

/-- What a query writes is a surface of the merged table, and matching anywhere finds it. -/
theorem SurfacesMerged.has_of_writes {base raws result : List String}
    (h : SurfacesMerged base raws result) {query raw : String} (hraw : raw ∈ raws)
    (hwrites : Writes query raw) :
    raw.normalize ∈ result ∧
      MatchMode.substring.has (Text.normalize query.toList) raw.normalize = true := by
  have hmem : raw.normalize ∈ result := (h.mem_iff _).2 (.inr ⟨raw, hraw, rfl⟩)
  obtain ⟨s, m, t, hquery, hs, ht, hm⟩ := hwrites
  refine ⟨hmem, MatchMode.has_substring_iff.2 ⟨(h.areSurfaces.2 _ hmem).1, ?_⟩⟩
  rw [← hm, hquery]
  exact Text.normalize_infix hs ht

/-- The surfaces configured for a class of entities are merged into the surfaces of that class. -/
theorem Lexicon.Merged.exists_entitySurfaces {x : Extension} {l : Lexicon} (h : l.Merged x)
    {p : String × List String} (hp : p ∈ x.entitySurfaces) :
    ∃ base, ∃ p' ∈ l.entitySurfaces, p'.1 = p.1 ∧ SurfacesMerged base p.2 p'.2 := by
  simp only [Extension.entitySurfaces, List.mem_cons, List.not_mem_nil, or_false] at hp
  simp only [entitySurfaces, List.exists_mem_cons_iff]
  rcases hp with rfl | rfl | rfl | rfl
  · exact ⟨_, .inl ⟨rfl, h.counterparties⟩⟩
  · exact ⟨_, .inr (.inl ⟨rfl, h.products.surfaces⟩)⟩
  · exact ⟨_, .inr (.inr (.inl ⟨rfl, h.traders.surfaces⟩))⟩
  · exact ⟨_, .inr (.inr (.inr (.inl ⟨rfl, h.desks.surfaces⟩)))⟩

/-- When matching anywhere, a configured surface that a query writes is found: one of an entity
restricts the field of its class, and one of a metric selects the columns that the lexicon has for
it. -/
theorem Compiler.finds_configured {config : Config} (hmode : config.mode = .substring)
    {c : Compiler} (h : configure config.lexicon config.mode = .ok c) (query : String)
    (now : Instant) :
    (∀ p ∈ config.lexicon.entitySurfaces, ∀ raw ∈ p.2, Writes query raw →
      ∃ f ∈ (c.compile query now).filters, f.field = p.1) ∧
    (∀ raw ∈ config.lexicon.metricSurfaces, Writes query raw →
      (∃ e ∈ c.lexicon.metrics, e.surface = raw.normalize) ∧
        ∀ e ∈ c.lexicon.metrics, e.surface = raw.normalize →
          e.value ⊆ (c.compile query now).metrics) := by
  obtain ⟨hl, hcmode⟩ := configure_eq_ok h
  rw [hmode] at hcmode
  have hvalid := Lexicon.valid_of_extend hl
  have hmerged := Lexicon.merged_of_extend hl
  constructor
  · intro p hp raw hraw hwrites
    obtain ⟨base, p', hp', hfield, hsurfaces⟩ := hmerged.exists_entitySurfaces hp
    obtain ⟨hmem, hhas⟩ := hsurfaces.has_of_writes hraw hwrites
    rw [← hcmode] at hhas
    obtain ⟨f, hf, hff⟩ :=
      (exists_entityFilter_iff hvalid).2 ⟨p', hp', hfield, raw.normalize, hmem, hhas⟩
    refine ⟨f, ?_, hff⟩
    rw [compile_filters, mem_filters_iff_of_entityField (field_mem_of_mem_entityFilters hf)]
    exact hf
  · intro raw hraw hwrites
    obtain ⟨hmem, hhas⟩ := hmerged.metrics.surfaces.has_of_writes hraw hwrites
    refine ⟨List.mem_map.1 hmem, fun e he hsurface => ?_⟩
    rw [← hsurface, ← hcmode] at hhas
    rw [compile_metrics]
    exact subset_metricsIn hvalid _ he hhas

/-- A desk whose last capital becomes a final sigma, and a column keyword: the query has them in
other letter case and with other blanks. -/
theorem Compiler.finds_configured_finalSigma :
    ∃ c, configure { Extension.empty with
          desks := .ofEntries [("ΤΟΜΕΑΣ  FX", "FX Desk")]
          metrics := .ofEntries [("Net\tFlow ", ["net_position", "inflows"])] }
        .substring = .ok c ∧
      Writes "net FLOW τομεας\u3000fx today" "ΤΟΜΕΑΣ  FX" ∧
      Writes "net FLOW τομεας\u3000fx today" "Net\tFlow " ∧
      (∃ f ∈ (c.compile "net FLOW τομεας\u3000fx today"
          (.startOf ⟨2026, 10, 19, by decide, by decide, by decide⟩)).filters,
        f.field = deskField) ∧
      ∃ e ∈ c.lexicon.metrics, e.surface = "Net\tFlow ".normalize ∧
        e.value ⊆ (c.compile "net FLOW τομεας\u3000fx today"
          (.startOf ⟨2026, 10, 19, by decide, by decide, by decide⟩)).metrics := by
  let config : Config :=
    { mode := .substring
      lexicon := { Extension.empty with
        desks := .ofEntries [("ΤΟΜΕΑΣ  FX", "FX Desk")]
        metrics := .ofEntries [("Net\tFlow ", ["net_position", "inflows"])] } }
  have h : ∃ c, configure config.lexicon config.mode = .ok c := ⟨_, rfl⟩
  obtain ⟨c, hc⟩ := h
  have hdesk : Writes "net FLOW τομεας\u3000fx today" "ΤΟΜΕΑΣ  FX" :=
    ⟨"net FLOW ".toList, "τομεας\u3000fx".toList, " today".toList, by decide +kernel⟩
  have hflow : Writes "net FLOW τομεας\u3000fx today" "Net\tFlow " :=
    ⟨[], "net FLOW".toList, " τομεας\u3000fx today".toList, by decide +kernel⟩
  obtain ⟨hentities, hmetrics⟩ := finds_configured rfl hc "net FLOW τομεας\u3000fx today"
    (.startOf ⟨2026, 10, 19, by decide, by decide, by decide⟩)
  obtain ⟨⟨e, he, hsurface⟩, hcolumns⟩ := hmetrics "Net\tFlow " (by decide) hflow
  refine ⟨c, hc, hdesk, hflow, ?_, e, he, hsurface, hcolumns e he hsurface⟩
  exact hentities (deskField, ["ΤΟΜΕΑΣ  FX"]) (by decide) "ΤΟΜΕΑΣ  FX" (by decide) hdesk

end ReportPlan
