import ReportPlan.Proofs.CommandLine.Acceptance
import ReportPlan.Proofs.Lexicon.Merging
import ReportPlan.Proofs.Matching.Finding
import ReportPlan.Proofs.Report.Keywords
import ReportPlan.Proofs.Report.SummaryText
import ReportPlan.Proofs.Report.WellFormed

/-! # Summaries of one line

All that the summary of a query is made of stands on one line, but for the canonical names that an
operator configures: these are trimmed, and a line break between two of their words is kept. A
summary has more than one line exactly if it tells such a name, and each name is told by the summary
of its own surface.

* `Lexicon.mem_canonicalNames_of_extend`: where the canonical names of a lexicon come from.
* `mem_mentioned_self`: a text that is a surface mentions its entry.
* `Compiler.isOneLine_summary_compile_iff`: the summaries of one line, by the names in them.
* `CommandLine.output_summary`: what the command for summaries prints.
* `Compiler.isOneLine_summary_iff_names`: all of it, for an accepted configuration.
-/

set_option autoImplicit false

namespace ReportPlan

/-! ## Canonical names -/

/-- The names of products, traders and desks that an operator configures. -/
def Extension.canonicalNames (x : Extension) : List String :=
  x.products.entries.flatMap (·.2) ++ x.traders.entries.map (·.2) ++ x.desks.entries.map (·.2)

/-- A name is built in, or configured and trimmed. -/
theorem Lexicon.mem_canonicalNames_of_extend {x : Extension} {l : Lexicon} (h : extend x = .ok l)
    {name : String} (hname : name ∈ l.canonicalNames) :
    name ∈ builtin.canonicalNames ∨ ∃ raw ∈ x.canonicalNames, raw.trimBlanks = name := by
  obtain ⟨-, hp, -, ht, hd⟩ := extend_eq_ok h
  obtain ⟨-, hproducts⟩ :=
    extendEntries_eq_ok (fun _ _ _ hv => (eq_trimValues_of_checkValues hv).1) hp
  have hnames : ∀ {table : Table} {base result : List (Entry String)} {raws : Dictionary String},
      extendEntries table checkCanonical base raws = .ok result → ∀ e ∈ result,
        e ∈ base ∨ ∃ raw ∈ raws.entries.map (·.2), raw.trimBlanks = e.value := by
    intro table base result raws hextend e he
    obtain ⟨-, rfl⟩ :=
      extendEntries_eq_ok (fun _ _ _ hv => (eq_trimBlanks_of_checkCanonical hv).1) hextend
    refine (mem_putEntries he).imp_right fun hraw => ?_
    obtain ⟨raw, hmem, rfl⟩ := List.mem_map.1 hraw
    exact ⟨raw.2, List.mem_map_of_mem hmem, rfl⟩
  simp only [canonicalNames, Extension.canonicalNames, List.mem_append] at hname ⊢
  rcases hname with (hname | hname) | hname
  · obtain ⟨e, he, hvalue⟩ := List.mem_flatMap.1 hname
    rw [hproducts] at he
    rcases mem_putEntries he with hbase | hraw
    · exact .inl (.inl (.inl (List.mem_flatMap.2 ⟨e, hbase, hvalue⟩)))
    · obtain ⟨raw, hmem, rfl⟩ := List.mem_map.1 hraw
      obtain ⟨value, hin, rfl⟩ := List.mem_map.1 hvalue
      exact .inr ⟨value, .inl (.inl (List.mem_flatMap.2 ⟨raw, hmem, hin⟩)), rfl⟩
  · obtain ⟨e, he, rfl⟩ := List.mem_map.1 hname
    rcases hnames ht e he with hbase | ⟨raw, hraw, htrimmed⟩
    · exact .inl (.inl (.inr (List.mem_map_of_mem hbase)))
    · exact .inr ⟨raw, .inl (.inr hraw), htrimmed⟩
  · obtain ⟨e, he, rfl⟩ := List.mem_map.1 hname
    rcases hnames hd e he with hbase | ⟨raw, hraw, htrimmed⟩
    · exact .inl (.inr (List.mem_map_of_mem hbase))
    · exact .inr ⟨raw, .inr hraw, htrimmed⟩

/-! ## Queries that are a surface -/

theorem MatchMode.has_toList (mode : MatchMode) {s : String} (hne : s ≠ "") :
    mode.has s.toList s = true := by
  have hscan := scanFrom_of_isPrefix (v := []) (mt String.toList_eq_nil_iff.1 hne) 0 none
  rw [List.append_nil] at hscan
  refine has_eq_true_iff.2 ⟨hne, occurrenceBetween s.toList 0 none [] [], ?_, ?_⟩
  · rw [scan, hscan]
    exact List.mem_cons_self
  · cases mode <;> rfl

/-- No longer surface fits into a text that is a surface, so nothing covers it there. -/
theorem mem_mentioned_self {α : Type} {mode : MatchMode} {surface : α → String} {table : List α}
    {e : α} (he : e ∈ table) (hne : surface e ≠ "") :
    e ∈ mentioned mode (surface e).toList surface table := by
  obtain ⟨span, hspan⟩ := has_iff_occursAt.1 (MatchMode.has_toList mode hne)
  refine mem_mentioned_iff.2 ⟨he, span, hspan, ?_⟩
  rintro ⟨e', -, outer, houter, hlonger, -⟩
  obtain ⟨u, v, htext⟩ := MatchMode.infix_of_has (has_iff_occursAt.2 ⟨outer, houter⟩)
  have hlength := congrArg byteLength htext
  rw [byteLength_append, byteLength_append] at hlength
  omega

theorem mem_mentioned_normalize {α : Type} {table : List (Entry α)}
    (h : AreSurfaces (table.map (·.surface))) (mode : MatchMode) {e : Entry α} (he : e ∈ table) :
    e ∈ mentioned mode (Text.normalize e.surface.toList) Entry.surface table := by
  obtain ⟨hne, hnormal⟩ := h.2 e.surface (List.mem_map_of_mem he)
  rw [String.normalize, ← String.toList_inj, String.toList_ofList] at hnormal
  rw [hnormal]
  exact mem_mentioned_self he hne

/-- Every name of an extended lexicon is asked for by some query, the surface of its entry. -/
theorem Compiler.exists_mem_canonicalNamesIn {x : Extension} {c : Compiler}
    (h : Lexicon.extend x = .ok c.lexicon) {name : String}
    (hname : name ∈ c.lexicon.canonicalNames) :
    ∃ query : String, name ∈ c.canonicalNamesIn (Text.normalize query.toList) := by
  have hmerged := Lexicon.merged_of_extend h
  simp only [Lexicon.canonicalNames, canonicalNamesIn, productsIn, tradersIn, desksIn, namesIn,
    List.mem_append, List.mem_eraseDups] at hname ⊢
  rcases hname with (hname | hname) | hname
  · obtain ⟨e, he, hvalue⟩ := List.mem_flatMap.1 hname
    have hself := mem_mentioned_normalize hmerged.products.surfaces.areSurfaces c.mode he
    exact ⟨e.surface, .inl (.inl (List.mem_flatMap.2 ⟨e, hself, hvalue⟩))⟩
  · obtain ⟨e, he, rfl⟩ := List.mem_map.1 hname
    have hself := mem_mentioned_normalize hmerged.traders.surfaces.areSurfaces c.mode he
    exact ⟨e.surface, .inl (.inr (List.mem_map_of_mem hself))⟩
  · obtain ⟨e, he, rfl⟩ := List.mem_map.1 hname
    have hself := mem_mentioned_normalize hmerged.desks.surfaces.areSurfaces c.mode he
    exact ⟨e.surface, .inr (List.mem_map_of_mem hself)⟩

/-! ## Summaries of queries -/

theorem InBlocks.isOneLine_field {filters : List Filter} (h : InBlocks filters) {f : Filter}
    (hf : f ∈ filters) : IsOneLine f.field := by
  obtain ⟨entities, thresholds, states, rfl, hentities, hthresholds, hstates⟩ := h
  have hfields : ∀ field ∈ entityFields ++ thresholdFields ++ allStateFilters.map (·.field),
      IsOneLine field := by decide +kernel
  refine hfields f.field ?_
  simp only [List.mem_append] at hf ⊢
  rcases hf with (hf | hf) | hf
  · exact .inl (.inl (hentities.subset (List.mem_map_of_mem hf)))
  · exact .inl (.inr (hthresholds.subset (List.mem_map_of_mem hf)))
  · exact .inr (List.mem_map_of_mem (hstates.subset hf))

theorem Compiler.isOneLine_summary_compile_iff {c : Compiler} {query : String} {now : Instant} :
    IsOneLine (c.compile query now).summary ↔
      ∀ name ∈ c.canonicalNamesIn (Text.normalize query.toList), IsOneLine name := by
  have htexts : (∀ s ∈ textsOf (c.filters (Text.normalize query.toList)), IsOneLine s) ↔
      ∀ name ∈ c.canonicalNamesIn (Text.normalize query.toList), IsOneLine name :=
    forall_mem_textsOf_filters_iff (fun surface _ => isOneLine_titleCase surface)
      (by decide +kernel)
  rw [Report.isOneLine_summary_iff, compile_filters, compile_name, ← htexts]
  refine ⟨fun h => h.2.2, fun h => ⟨isOneLine_title h, fun f hf => ?_, h⟩⟩
  exact (c.filters_inBlocks _).isOneLine_field hf

/-! ## The command -/

namespace CommandLine

/-- A text of one line, and the line feed behind it. -/
def IsLine (output : String) : Prop :=
  ∃ line, IsOneLine line ∧ output = line ++ "\n"

theorem isLine_iff {s : String} : IsLine (s ++ "\n") ↔ IsOneLine s := by
  constructor
  · rintro ⟨line, hline, heq⟩
    rw [← String.toList_inj, String.toList_append, String.toList_append,
      List.append_cancel_right_eq, String.toList_inj] at heq
    rwa [heq]
  · exact fun h => ⟨s, h, rfl⟩

variable {w : Surroundings} {args : List String} {i : Invocation} {query : String}
  {at? : Option Instant} {config : Config} {c : Compiler}

/-- What the command for summaries prints, whether it logs or not. -/
theorem output_summary (hread : Request.read args = .ok (.invoke i))
    (hcommand : i.command = .summary query at?)
    (hlogs : ∀ dir ∈ i.logDir, w.canHoldLogs dir = true)
    (hload : w.loadConfig i.config = .ok config)
    (hc : Compiler.configure config.lexicon config.mode = .ok c) :
    (run w args).output = (c.compile query (at?.getD w.now)).summary ++ "\n" := by
  have hperform : i.perform w config = .ok (i.command.perform w config.pretty c) := by
    rw [Invocation.perform, compilerOf, hc]
    rfl
  rw [hcommand] at hperform
  rw [run_of_read hread, Outcome.output, Invocation.run, hload]
  cases hdir : i.logDir with
  | none =>
    simp only [hperform]
    rfl
  | some dir =>
    simp only [hperform, if_pos (hlogs dir hdir)]
    rfl

end CommandLine

open CommandLine

/-- With an accepted configuration, a summary is one line exactly if all canonical names that the
query asks for are. Every summary is exactly if every canonical name of the lexicon is, and it is
enough that every configured one is when it has been trimmed. The command prints one line exactly if
its summary is one. -/
theorem Compiler.isOneLine_summary_iff_names {config : Config} {c : Compiler}
    (h : configure config.lexicon config.mode = .ok c) (now : Instant) :
    (∀ query, IsOneLine (c.compile query now).summary ↔
      ∀ name ∈ c.canonicalNamesIn (Text.normalize query.toList), IsOneLine name) ∧
    ((∀ query, IsOneLine (c.compile query now).summary) ↔
      ∀ name ∈ c.lexicon.canonicalNames, IsOneLine name) ∧
    ((∀ raw ∈ config.lexicon.canonicalNames, IsOneLine raw.trimBlanks) →
      ∀ query, IsOneLine (c.compile query now).summary) ∧
    ∀ (w : Surroundings) (args : List String) (i : Invocation) (query : String)
      (at? : Option Instant), Request.read args = .ok (.invoke i) →
        i.command = .summary query at? → (∀ dir ∈ i.logDir, w.canHoldLogs dir = true) →
          w.loadConfig i.config = .ok config →
            (IsLine (run w args).output ↔
              IsOneLine (c.compile query (at?.getD w.now)).summary) := by
  have hlexicon := (configure_eq_ok h).1
  have hnames : (∀ query, IsOneLine (c.compile query now).summary) ↔
      ∀ name ∈ c.lexicon.canonicalNames, IsOneLine name := by
    constructor
    · intro hall name hname
      obtain ⟨query, hasked⟩ := exists_mem_canonicalNamesIn hlexicon hname
      exact isOneLine_summary_compile_iff.1 (hall query) name hasked
    · intro hall query
      exact isOneLine_summary_compile_iff.2 fun name hname =>
        hall name (c.canonicalNamesIn_subset _ hname)
  refine ⟨fun query => isOneLine_summary_compile_iff, hnames, fun hraws => hnames.2 ?_, ?_⟩
  · intro name hname
    rcases Lexicon.mem_canonicalNames_of_extend hlexicon hname with hbuiltin | ⟨raw, hraw, rfl⟩
    · have hall : ∀ name ∈ Lexicon.builtin.canonicalNames, IsOneLine name := by decide +kernel
      exact hall name hbuiltin
    · exact hraws raw hraw
  · intro w args i query at? hread hcommand hlogs hload
    rw [output_summary hread hcommand hlogs hload h]
    exact isLine_iff

/-- A line feed in the name of one product: a query on it gives a summary of several lines, others
give one of one line. -/
theorem Compiler.isOneLine_summary_iff_names_swap :
    let text := "[lexicon.products]\nswap = [\"FX\\nSwap\"]\n"
    let w : Surroundings :=
      { file := fun path => if path = "desk.toml" then .text text else .missing
        home := none
        modeOverride := none
        canHoldLogs := fun _ => false
        now := .startOf ⟨2026, 10, 19, by decide, by decide, by decide⟩
        id := ⟨0, by decide⟩ }
    ∃ config c, w.loadConfig (some "desk.toml") = .ok config ∧
      configure config.lexicon config.mode = .ok c ∧
      ¬IsOneLine (c.compile "swap trades" w.now).summary ∧
      IsOneLine (c.compile "spot trades" w.now).summary ∧
      ¬IsLine (run w ["--config", "desk.toml", "summary", "swap trades"]).output := by
  intro text w
  have hcompiled : ((Config.ofText? text).bind fun config =>
      (configure config.lexicon config.mode).toOption).any (fun c =>
        decide ("FX\nSwap" ∈ c.canonicalNamesIn (Text.normalize "swap trades".toList)) &&
          decide (c.canonicalNamesIn (Text.normalize "spot trades".toList) = ["FX Spot"])) =
      true := by decide +kernel
  simp only [Option.any_eq_true, Option.bind_eq_some_iff, toOption_eq_some_iff, Bool.and_eq_true,
    decide_eq_true_eq] at hcompiled
  obtain ⟨c, ⟨config, hconfig, hc⟩, hswap, hspot⟩ := hcompiled
  have hload : w.loadConfig (some "desk.toml") = .ok config :=
    Surroundings.loadConfig_eq_ok_iff.2 ⟨config, .named "desk.toml" text config rfl hconfig, rfl⟩
  have hread : Request.read ["--config", "desk.toml", "summary", "swap trades"] =
      .ok (.invoke ⟨some "desk.toml", none, .summary "swap trades" none⟩) :=
    toOption_eq_some_iff.1 (by decide +kernel)
  obtain ⟨hquery, -, -, hrun⟩ := isOneLine_summary_iff_names hc w.now
  have htwo : ¬IsOneLine (c.compile "swap trades" w.now).summary := fun hone =>
    absurd ((hquery "swap trades").1 hone _ hswap) (by decide)
  refine ⟨config, c, hload, hc, htwo, (hquery "spot trades").2 ?_, ?_⟩
  · rw [hspot]
    decide
  · rw [hrun w _ _ "swap trades" none hread rfl (by simp) hload]
    exact htwo

/-- The line feed in a configured name stands in the summary. -/
theorem Compiler.swap_onSeveralLines :
    ∃ c, configure { Extension.empty with products := .ofEntries [("swap", ["FX\nSwap"])] }
        .substring = .ok c ∧
      (c.compile "swap trades"
          (.startOf ⟨2026, 10, 19, by decide, by decide, by decide⟩)).summary =
        "Transactions - FX\nSwap | product_type equals FX\nSwap | all time" ∧
      ¬IsOneLine (c.compile "swap trades"
        (.startOf ⟨2026, 10, 19, by decide, by decide, by decide⟩)).summary := by
  obtain ⟨c, hc, hsummary⟩ : ∃ c,
      configure { Extension.empty with products := .ofEntries [("swap", ["FX\nSwap"])] }
        .substring = .ok c ∧
      (c.compile "swap trades"
          (.startOf ⟨2026, 10, 19, by decide, by decide, by decide⟩)).summary =
        "Transactions - FX\nSwap | product_type equals FX\nSwap | all time" :=
    ⟨_, rfl, by decide +kernel⟩
  refine ⟨c, hc, hsummary, ?_⟩
  rw [hsummary]
  decide

end ReportPlan
