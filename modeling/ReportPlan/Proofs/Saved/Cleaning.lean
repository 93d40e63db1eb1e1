import Mathlib.Data.List.Induction
import ReportPlan.Proofs.Lexicon.Merging
import ReportPlan.Proofs.Report.WellFormed
import ReportPlan.Proofs.Text.Trimmed
import ReportPlan.Saved.Basic

/-! # Names and tags of saved reports

Names and tags are cleaned when a report is saved. What has been cleaned stays as it is, so that
saving a report again under its own name and tags changes nothing; the name that a report has of
itself, which stands in for a blank one, is clean from the start.

* `isCleanName_iff`: clean names are those that are trimmed and not empty.
* `IsCleanName.intercalate`: joined names.
* `Compiler.isCleanName_name`: compiled reports have clean names, whatever an operator configures.
* `cleanTags_concat`: the tags that one more tag adds, and by induction `cleanTags_cleanTags`.
* `Report.save_save`: a report that is saved once more.
* `Compiler.save_cleans`: the saved reports of an accepted configuration.
-/

set_option autoImplicit false

namespace ReportPlan

/-! ## Clean names -/

theorem trimBlanks_eq_self_iff {s : String} : s.trimBlanks = s ↔ Text.IsTrimmed s.toList := by
  rw [← Text.trim_eq_self_iff, String.trimBlanks, ← String.toList_inj, String.toList_ofList]

theorem isCleanName_iff {s : String} : IsCleanName s ↔ s ≠ "" ∧ Text.IsTrimmed s.toList := by
  rw [IsCleanName, trimBlanks_eq_self_iff]
  refine and_congr_left fun htrimmed => ⟨?_, fun hne => ?_⟩
  · rintro hblank rfl
    exact absurd hblank (by decide)
  · obtain ⟨c, rest, hs⟩ := List.exists_cons_of_ne_nil (mt String.toList_eq_nil_iff.1 hne)
    refine Text.isBlankText_eq_false_iff.2 ⟨c, ?_, htrimmed.first c ?_⟩
    · simp [hs]
    · simp [hs]

theorem IsCleanName.intercalate {sep : String} {parts : List String} (hne : parts ≠ [])
    (h : ∀ part ∈ parts, IsCleanName part) : IsCleanName (sep.intercalate parts) := by
  have hparts : ∀ p ∈ parts.map String.toList, p ≠ [] ∧ Text.IsTrimmed p := by
    intro p hp
    obtain ⟨part, hpart, rfl⟩ := List.mem_map.1 hp
    obtain ⟨hpartne, htrimmed⟩ := isCleanName_iff.1 (h part hpart)
    exact ⟨mt String.toList_eq_nil_iff.1 hpartne, htrimmed⟩
  obtain ⟨hjoinedne, hjoined⟩ :=
    Text.isTrimmed_intercalate sep.toList (mt List.map_eq_nil_iff.1 hne) hparts
  rw [isCleanName_iff, ne_eq, ← String.toList_eq_nil_iff, String.toList_intercalate]
  exact ⟨hjoinedne, hjoined⟩

theorem isCleanName_titleCase {s : String} (h : s.isBlankText = false) :
    IsCleanName s.titleCase := by
  refine ⟨String.isBlankText_titleCase h, trimBlanks_eq_self_iff.2 ?_⟩
  rw [String.titleCase, String.toList_ofList]
  exact (Text.isCanonical_titleCase _).isTrimmed

/-! ## Names of reports -/

section Texts

variable {x : Extension} {c : Compiler} {text : List Char}

theorem isCleanName_of_mem_canonicalNames {l : Lexicon} (h : l.Merged x) {name : String}
    (hname : name ∈ l.canonicalNames) : IsCleanName name := by
  simp only [Lexicon.canonicalNames, List.mem_append] at hname
  rcases hname with (hname | hname) | hname
  · obtain ⟨e, he, hvalue⟩ := List.mem_flatMap.1 hname
    exact (h.products.values e he).2 name hvalue
  · obtain ⟨e, he, rfl⟩ := List.mem_map.1 hname
    exact h.traders.values e he
  · obtain ⟨e, he, rfl⟩ := List.mem_map.1 hname
    exact h.desks.values e he

/-- Names are checked when they are configured, and the rest is built in. -/
theorem isCleanName_of_mem_textsOf (h : Lexicon.extend x = .ok c.lexicon) :
    ∀ s ∈ textsOf (c.filters text), IsCleanName s := by
  have hvalid := Lexicon.valid_of_extend h
  refine (Compiler.forall_mem_textsOf_filters_iff (fun surface hsurface => ?_) ?_).2 ?_
  · exact isCleanName_titleCase (hvalid.counterparties surface hsurface)
  · decide +kernel
  · exact fun name hname => isCleanName_of_mem_canonicalNames (Lexicon.merged_of_extend h)
      (c.canonicalNamesIn_subset text hname)

theorem isCleanName_title {mode : MatchMode} {query : List Char} {type : ReportType}
    {filters : List Filter} (hfilters : ∀ s ∈ textsOf filters, IsCleanName s) {window : Window} :
    IsCleanName (title mode query type filters window) := by
  have hparts : ∀ part ∈ titleParts mode query type filters window, IsCleanName part := by
    intro part hpart
    rcases mem_titleParts hpart with hfixed | ⟨values, hne, hvalues, rfl⟩
    · have hall : ∀ part ∈ fixedParts, IsCleanName part := by decide +kernel
      exact hall part hfixed
    · exact .intercalate hne fun v hv => hfilters v (hvalues hv)
  unfold title
  split
  · decide +kernel
  · rename_i hne
    exact .intercalate hne hparts

theorem Compiler.isCleanName_name {mode : MatchMode} (h : configure x mode = .ok c)
    (query : String) (now : Instant) : IsCleanName (c.compile query now).name := by
  rw [c.compile_name]
  exact isCleanName_title (isCleanName_of_mem_textsOf (configure_eq_ok h).1)

end Texts

/-- A name that is saved is not changed by saving it again. -/
theorem savedName_savedName {r : Report} (h : IsCleanName r.name) (chosen : String) :
    savedName (savedName chosen r) r = savedName chosen r := by
  have hclean : ∀ s : String, s ≠ "" → s.trimBlanks = s → savedName s r = s := by
    intro s hne htrimmed
    rw [savedName, htrimmed, if_neg hne]
  by_cases hblank : chosen.trimBlanks = ""
  · rw [savedName.eq_1 chosen, if_pos hblank]
    exact hclean r.name (isCleanName_iff.1 h).1 h.2
  · rw [savedName.eq_1 chosen, if_neg hblank]
    exact hclean _ hblank chosen.trimBlanks_trimBlanks

/-! ## Tags -/

theorem mem_cleanTags_iff {tags : List String} {t : String} :
    t ∈ cleanTags tags ↔ t ≠ "" ∧ ∃ raw ∈ tags, raw.trimBlanks = t := by
  rw [cleanTags, List.mem_eraseDups, List.mem_filter, List.mem_map, decide_eq_true_iff, and_comm]

theorem isTrimmed_of_mem_cleanTags {tags : List String} {t : String} (ht : t ∈ cleanTags tags) :
    Text.IsTrimmed t.toList := by
  obtain ⟨-, raw, -, rfl⟩ := mem_cleanTags_iff.1 ht
  exact trimBlanks_eq_self_iff.1 raw.trimBlanks_trimBlanks

/-- Tags stand in the order in which they first come up. -/
theorem pairwise_cleanTags (tags : List String) :
    (cleanTags tags).Pairwise (AppearsBefore (tags.map (·.trimBlanks))) := by
  refine (pairwise_eraseDups _).imp_of_mem fun {a b} _ hb hbefore => hbefore.of_filter ?_
  exact decide_eq_true (mem_cleanTags_iff.1 hb).1

/-- A tag is added behind the others unless it is blank or there already. -/
theorem cleanTags_concat (tags : List String) (tag : String) :
    cleanTags (tags ++ [tag]) =
      if tag.trimBlanks = "" ∨ tag.trimBlanks ∈ cleanTags tags then cleanTags tags
      else cleanTags tags ++ [tag.trimBlanks] := by
  have hmem : tag.trimBlanks ∈ (tags.map (·.trimBlanks)).filter (fun t => t ≠ "") ↔
      tag.trimBlanks ∈ cleanTags tags := List.mem_eraseDups.symm
  rw [cleanTags, List.map_append, List.map_singleton, List.filter_append]
  by_cases hblank : tag.trimBlanks = ""
  · rw [if_pos (.inl hblank), List.filter_cons_of_neg (by simpa using hblank), List.filter_nil,
      List.append_nil, cleanTags]
  · rw [List.filter_cons_of_pos (by simpa using hblank), List.filter_nil, eraseDups_concat]
    exact if_congr (hmem.trans (or_iff_right hblank).symm) rfl rfl

/-- Clean tags stay as they are: of each that is added, the one tag added last decides. -/
theorem cleanTags_cleanTags (tags : List String) : cleanTags (cleanTags tags) = cleanTags tags := by
  induction tags using List.reverseRecOn with
  | nil => rfl
  | append_singleton tags tag ih =>
    rw [cleanTags_concat]
    split
    · exact ih
    · rename_i hnew
      rw [cleanTags_concat, ih, tag.trimBlanks_trimBlanks, if_neg hnew]

/-! ## Saved reports -/

/-- Saved once more under the same name with the same tags, a report differs in the identifier and
the time only. -/
theorem Report.save_save {r : Report} (h : IsCleanName r.name) (id id' : Uuid)
    (created created' : Instant) (chosen query : String) (tags : List String) :
    let saved := r.save id created chosen query tags
    saved.report.save id' created' saved.name saved.query saved.tags =
      { saved with id := id', created := created' } := by
  simp only [save, savedName_savedName h, cleanTags_cleanTags]

/-- The tags of a saved report are distinct, not empty and trimmed; they are what is left of the
given tags, in the order in which these first come up. The query and the report are kept. Saving the
report once more, under the name and with the tags that it has now, changes neither. -/
theorem Compiler.save_cleans {config : Config} {c : Compiler}
    (h : configure config.lexicon config.mode = .ok c) (query : String) (now : Instant)
    (id : Uuid) (created : Instant) (chosen typed : String) (tags : List String) :
    let r := c.compile query now
    let saved := r.save id created chosen typed tags
    (saved.tags.Nodup ∧ ∀ t ∈ saved.tags, t ≠ "" ∧ Text.IsTrimmed t.toList) ∧
    (∀ t, t ∈ saved.tags ↔ t ≠ "" ∧ ∃ raw ∈ tags, raw.trimBlanks = t) ∧
    saved.tags.Pairwise (AppearsBefore (tags.map (·.trimBlanks))) ∧
    (saved.query = typed ∧ saved.report = r) ∧
    ∀ (id' : Uuid) (created' : Instant),
      saved.report.save id' created' saved.name saved.query saved.tags =
        { saved with id := id', created := created' } := by
  intro r saved
  have hordered := pairwise_cleanTags tags
  refine ⟨⟨hordered.imp AppearsBefore.ne, fun t ht => ?_⟩, fun t => mem_cleanTags_iff, hordered,
    ⟨rfl, rfl⟩, fun id' created' => ?_⟩
  · exact ⟨(mem_cleanTags_iff.1 ht).1, isTrimmed_of_mem_cleanTags ht⟩
  · exact Report.save_save (isCleanName_name h query now) id id' created created' chosen typed tags

/-- A blank name, for which the name of the report stands in, and tags that are blank or come twice;
the product in the name is one that the operator wrote with blanks around it. -/
theorem Compiler.save_cleans_blankName :
    ∃ c, configure { Extension.empty with
          products := .ofEntries [("Sukuk", ["\u3000FGN Bonds\n"])] } .wordBoundary = .ok c ∧
      let now := Instant.startOf ⟨2026, 10, 19, by decide, by decide, by decide⟩
      let r := c.compile "sukuk trades" now
      let tags := [" pnl", "\u3000", "pnl\t", "desk", ""]
      let saved := r.save ⟨7, by decide⟩ now " \u3000" "sukuk trades" tags
      saved.tags = ["pnl", "desk"] ∧ saved.name = "Transactions - FGN Bonds" ∧
        (saved.tags.Nodup ∧ ∀ t ∈ saved.tags, t ≠ "" ∧ Text.IsTrimmed t.toList) ∧
        (∀ t, t ∈ saved.tags ↔ t ≠ "" ∧ ∃ raw ∈ tags, raw.trimBlanks = t) ∧
        saved.tags.Pairwise (AppearsBefore (tags.map (·.trimBlanks))) ∧
        ∀ (id' : Uuid) (created' : Instant),
          saved.report.save id' created' saved.name saved.query saved.tags =
            { saved with id := id', created := created' } := by
  let config : Config :=
    { mode := .wordBoundary
      lexicon := { Extension.empty with
        products := .ofEntries [("Sukuk", ["\u3000FGN Bonds\n"])] } }
  obtain ⟨c, hc, hname⟩ : ∃ c, configure config.lexicon config.mode = .ok c ∧
      (c.compile "sukuk trades" (.startOf ⟨2026, 10, 19, by decide, by decide, by decide⟩)).name =
        "Transactions - FGN Bonds" := ⟨_, rfl, by decide +kernel⟩
  obtain ⟨hclean, hmem, hordered, -, hagain⟩ := save_cleans hc "sukuk trades"
    (.startOf ⟨2026, 10, 19, by decide, by decide, by decide⟩) ⟨7, by decide⟩
    (.startOf ⟨2026, 10, 19, by decide, by decide, by decide⟩) " \u3000" "sukuk trades"
    [" pnl", "\u3000", "pnl\t", "desk", ""]
  have htags : cleanTags [" pnl", "\u3000", "pnl\t", "desk", ""] = ["pnl", "desk"] := by
    decide +kernel
  have hblank : ∀ r : Report, savedName " \u3000" r = r.name := fun r => if_pos (by decide)
  exact ⟨c, hc, htags, (hblank _).trans hname, hclean, hmem, hordered, hagain⟩

end ReportPlan
