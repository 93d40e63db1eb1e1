import ReportPlan.Proofs.Lexicon.Validity
import ReportPlan.Proofs.Text.Normal

/-! # Extensions merge into the built-in tables

An accepted extension updates the built-in tables as a map is updated: a surface has one entry,
which keeps its place, and of several raw keys with one normal form the last one counts.

* `addSurfaces`, `putEntries`: several steps of a merge, none of which fails.
* `valueOf?`: the value that a table has for a surface.
* `SurfacesMerged`, `EntriesMerged`, `Lexicon.Merged`: what a merged table and lexicon look like.
* `Lexicon.merged_of_extend`: an accepted extension gives a merged lexicon.
-/

set_option autoImplicit false

namespace ReportPlan

variable {α : Type}

/-! ## Steps that do not fail -/

/-- Adds several surfaces to a table, one after the other. -/
def addSurfaces (base surfaces : List String) : List String :=
  surfaces.foldl (fun table s => putSurface s table) base

/-- Sets several entries of a table, one after the other. -/
def putEntries (base entries : List (Entry α)) : List (Entry α) :=
  entries.foldl (fun table e => putEntry e.surface e.value table) base

/-- The value that a table has for a surface. -/
def valueOf? (table : List (Entry α)) (s : String) : Option α :=
  (table.find? fun e => e.surface = s).map (·.value)

theorem extendSurfaces_eq_ok {base raws result : List String}
    (h : extendSurfaces base raws = .ok result) :
    (∀ raw ∈ raws, raw.isBlankText = false) ∧
      result = addSurfaces base (raws.map (·.normalize)) := by
  rw [addSurfaces, List.foldl_map]
  refine foldlM_eq_ok (fun table raw table' hput => ?_) h
  obtain ⟨surface, hsurface, heq⟩ := bind_eq_ok_iff.1 hput
  obtain ⟨hblank, rfl⟩ := checkSurface_eq_ok hsurface
  cases heq
  exact ⟨hblank, rfl⟩

theorem extendEntries_eq_ok {table : Table} {check : Table → String → α → Except LexiconError α}
    {clean : α → α}
    (hcheck : ∀ surface value checked, check table surface value = .ok checked →
      checked = clean value)
    {base result : List (Entry α)} {entries : Dictionary α}
    (h : extendEntries table check base entries = .ok result) :
    (∀ e ∈ entries.entries, e.1.isBlankText = false) ∧
      result = putEntries base (entries.entries.map fun e => ⟨e.1.normalize, clean e.2⟩) := by
  rw [putEntries, List.foldl_map]
  refine foldlM_eq_ok (fun acc e acc' hput => ?_) h
  obtain ⟨surface, hsurface, hrest⟩ := bind_eq_ok_iff.1 hput
  obtain ⟨checked, hchecked, heq⟩ := bind_eq_ok_iff.1 hrest
  obtain ⟨hblank, rfl⟩ := checkSurface_eq_ok hsurface
  obtain rfl := hcheck _ _ _ hchecked
  cases heq
  exact ⟨hblank, rfl⟩

/-! ## Surfaces -/

theorem mem_putSurface_iff {s surface : String} {table : List String} :
    s ∈ putSurface surface table ↔ s ∈ table ∨ s = surface := by
  rw [putSurface]
  split
  · rename_i hmem
    constructor
    · exact Or.inl
    · rintro (hs | rfl)
      · exact hs
      · exact hmem
  · rw [List.mem_append, List.mem_singleton]

theorem nodup_putSurface (surface : String) {table : List String} (h : table.Nodup) :
    (putSurface surface table).Nodup := by
  rw [putSurface]
  split
  · exact h
  · rename_i hnot
    rw [List.nodup_append]
    refine ⟨h, by simp, ?_⟩
    intro s hs t ht
    rw [List.mem_singleton] at ht
    rintro rfl
    exact hnot (ht ▸ hs)

theorem prefix_putSurface (surface : String) (table : List String) :
    table <+: putSurface surface table := by
  rw [putSurface]
  split
  · exact List.prefix_rfl
  · exact List.prefix_append _ _

/-- A surface is added to the surfaces of a table exactly if the table has no entry for it. -/
theorem surfaces_putEntry (surface : String) (value : α) (table : List (Entry α)) :
    (putEntry surface value table).map (·.surface) =
      putSurface surface (table.map (·.surface)) := by
  induction table with
  | nil => rfl
  | cons e rest ih =>
    rw [putEntry]
    split
    · rename_i heq
      simp [putSurface, heq]
    · rename_i hne
      rw [List.map_cons, List.map_cons, ih, putSurface, putSurface]
      by_cases hmem : surface ∈ rest.map (·.surface)
      · rw [if_pos hmem, if_pos (List.mem_cons_of_mem _ hmem)]
      · have hnot : surface ∉ e.surface :: rest.map (·.surface) := by
          rw [List.mem_cons, not_or]
          exact ⟨Ne.symm hne, hmem⟩
        rw [if_neg hmem, if_neg hnot, List.cons_append]

theorem mem_addSurfaces_iff {s : String} {base surfaces : List String} :
    s ∈ addSurfaces base surfaces ↔ s ∈ base ∨ s ∈ surfaces := by
  induction surfaces generalizing base with
  | nil => simp [addSurfaces]
  | cons surface surfaces ih =>
    have hrest : s ∈ addSurfaces (putSurface surface base) surfaces ↔ _ := ih
    rw [mem_putSurface_iff, or_assoc] at hrest
    rw [List.mem_cons]
    exact hrest

theorem nodup_addSurfaces {base : List String} (h : base.Nodup) (surfaces : List String) :
    (addSurfaces base surfaces).Nodup := by
  induction surfaces generalizing base with
  | nil => exact h
  | cons surface surfaces ih => exact ih (nodup_putSurface surface h)

theorem prefix_addSurfaces (base surfaces : List String) : base <+: addSurfaces base surfaces := by
  induction surfaces generalizing base with
  | nil => exact List.prefix_rfl
  | cons surface surfaces ih => exact (prefix_putSurface surface base).trans (ih _)

theorem surfaces_putEntries (base entries : List (Entry α)) :
    (putEntries base entries).map (·.surface) =
      addSurfaces (base.map (·.surface)) (entries.map (·.surface)) := by
  induction entries generalizing base with
  | nil => rfl
  | cons e entries ih =>
    have hrest := ih (putEntry e.surface e.value base)
    rw [surfaces_putEntry] at hrest
    exact hrest

theorem mem_putEntries {e : Entry α} {base entries : List (Entry α)}
    (h : e ∈ putEntries base entries) : e ∈ base ∨ e ∈ entries := by
  induction entries generalizing base with
  | nil => exact .inl h
  | cons first entries ih =>
    rcases ih h with hput | hmem
    · rcases mem_putEntry hput with rfl | hbase
      · exact .inr List.mem_cons_self
      · exact .inl hbase
    · exact .inr (List.mem_cons_of_mem _ hmem)

/-! ## Values -/

theorem valueOf?_putEntry_self (surface : String) (value : α) (table : List (Entry α)) :
    valueOf? (putEntry surface value table) surface = some value := by
  induction table with
  | nil => simp [valueOf?, putEntry]
  | cons e rest ih =>
    rw [putEntry]
    split
    · simp [valueOf?]
    · rename_i hne
      rw [valueOf?, List.find?_cons_of_neg (by simpa using hne)]
      exact ih

theorem valueOf?_putEntry_of_ne {surface s : String} (hs : surface ≠ s) (value : α)
    (table : List (Entry α)) : valueOf? (putEntry surface value table) s = valueOf? table s := by
  induction table with
  | nil => simp [valueOf?, putEntry, hs]
  | cons e rest ih =>
    rw [putEntry]
    split
    · rename_i heq
      have hne : e.surface ≠ s := heq ▸ hs
      rw [valueOf?, valueOf?, List.find?_cons_of_neg (by simpa using hs),
        List.find?_cons_of_neg (by simpa using hne)]
    · by_cases hes : e.surface = s
      · rw [valueOf?, valueOf?, List.find?_cons_of_pos (by simpa using hes),
          List.find?_cons_of_pos (by simpa using hes)]
      · rw [valueOf?, valueOf?, List.find?_cons_of_neg (by simpa using hes),
          List.find?_cons_of_neg (by simpa using hes)]
        exact ih

/-- A surface that is not set keeps its value, or stays without one. -/
theorem valueOf?_putEntries_of_forall_ne {s : String} {base entries : List (Entry α)}
    (h : ∀ e ∈ entries, e.surface ≠ s) : valueOf? (putEntries base entries) s = valueOf? base s := by
  induction entries generalizing base with
  | nil => rfl
  | cons e entries ih =>
    have hrest : valueOf? (putEntries (putEntry e.surface e.value base) entries) s = _ :=
      ih fun e' he' => h e' (List.mem_cons_of_mem _ he')
    rw [valueOf?_putEntry_of_ne (h e List.mem_cons_self)] at hrest
    exact hrest

/-- Of several entries that are set for one surface, the last one counts. -/
theorem valueOf?_putEntries_of_last {e : Entry α} {base earlier later : List (Entry α)}
    (h : ∀ e' ∈ later, e'.surface ≠ e.surface) :
    valueOf? (putEntries base (earlier ++ e :: later)) e.surface = some e.value := by
  have hsplit : putEntries base (earlier ++ e :: later) =
      putEntries (putEntry e.surface e.value (putEntries base earlier)) later := by
    rw [putEntries, List.foldl_append, List.foldl_cons]
    rfl
  rw [hsplit, valueOf?_putEntries_of_forall_ne h, valueOf?_putEntry_self]

/-! ## Merged tables -/

/-- The surfaces of a table are distinct, and each is a normal form that is not empty. -/
def AreSurfaces (surfaces : List String) : Prop :=
  surfaces.Nodup ∧ ∀ s ∈ surfaces, s ≠ "" ∧ s.normalize = s

instance (surfaces : List String) : Decidable (AreSurfaces surfaces) :=
  inferInstanceAs (Decidable (_ ∧ _))

/-- A table has the surfaces of a base, in their order, and behind them the normal forms of raw
surfaces that the base does not have. -/
structure SurfacesMerged (base raws result : List String) : Prop where
  base_first : base <+: result
  areSurfaces : AreSurfaces result
  mem_iff : ∀ s, s ∈ result ↔ s ∈ base ∨ ∃ raw ∈ raws, raw.normalize = s

/-- The entries of a base are updated by raw ones: the entry of the greatest raw key with a given
normal form counts, and where there is no such key the entry of the base. -/
structure EntriesMerged (clean : α → α) (IsClean : α → Prop) (base : List (Entry α))
    (raws : Dictionary α) (result : List (Entry α)) : Prop where
  surfaces : SurfacesMerged (base.map (·.surface)) (raws.entries.map (·.1))
    (result.map (·.surface))
  values : ∀ e ∈ result, IsClean e.value
  updated : ∀ raw ∈ raws.entries,
    (∀ raw' ∈ raws.entries, raw'.1.normalize = raw.1.normalize → raw'.1 ≤ raw.1) →
      valueOf? result raw.1.normalize = some (clean raw.2)
  kept : ∀ s, (∀ raw ∈ raws.entries, raw.1.normalize ≠ s) → valueOf? result s = valueOf? base s

theorem surfacesMerged_addSurfaces {base raws : List String} (hbase : AreSurfaces base)
    (hraws : ∀ raw ∈ raws, raw.isBlankText = false) :
    SurfacesMerged base raws (addSurfaces base (raws.map (·.normalize))) := by
  have hmem : ∀ s, s ∈ addSurfaces base (raws.map (·.normalize)) ↔
      s ∈ base ∨ ∃ raw ∈ raws, raw.normalize = s := by
    intro s
    rw [mem_addSurfaces_iff, List.mem_map]
  refine ⟨prefix_addSurfaces _ _, ⟨nodup_addSurfaces hbase.1 _, fun s hs => ?_⟩, hmem⟩
  rcases (hmem s).1 hs with hs | ⟨raw, hraw, rfl⟩
  · exact hbase.2 s hs
  · refine ⟨fun hempty => ?_, raw.normalize_normalize⟩
    rw [String.normalize_eq_empty_iff, hraws raw hraw] at hempty
    cases hempty

theorem entriesMerged_of_extendEntries {table : Table}
    {check : Table → String → α → Except LexiconError α} {clean : α → α} {IsClean : α → Prop}
    (hcheck : ∀ surface value checked, check table surface value = .ok checked →
      checked = clean value ∧ IsClean checked)
    {base result : List (Entry α)} (hsurfaces : AreSurfaces (base.map (·.surface)))
    (hvalues : ∀ e ∈ base, IsClean e.value) {raws : Dictionary α}
    (h : extendEntries table check base raws = .ok result) :
    EntriesMerged clean IsClean base raws result := by
  have hclean : ∀ e ∈ result, IsClean e.value :=
    forall_mem_extendEntries hvalues (fun _ _ _ _ _ hv => (hcheck _ _ _ hv).2) h
  obtain ⟨hraws, rfl⟩ := extendEntries_eq_ok (fun _ _ _ hv => (hcheck _ _ _ hv).1) h
  constructor
  · rw [surfaces_putEntries, List.map_map]
    have hkeys : raws.entries.map ((·.surface) ∘ fun e => Entry.mk e.1.normalize (clean e.2)) =
        (raws.entries.map (·.1)).map (·.normalize) := by
      rw [List.map_map]
      rfl
    rw [hkeys]
    refine surfacesMerged_addSurfaces hsurfaces fun raw hraw => ?_
    obtain ⟨e, he, rfl⟩ := List.mem_map.1 hraw
    exact hraws e he
  · exact hclean
  · intro raw hraw hgreatest
    -- keys ascend, so those behind the greatest one have other normal forms
    obtain ⟨earlier, later, hsplit⟩ := List.append_of_mem hraw
    have hascending := raws.ascending
    rw [hsplit, List.pairwise_append, List.pairwise_cons] at hascending
    rw [hsplit, List.map_append, List.map_cons]
    refine valueOf?_putEntries_of_last (e := ⟨raw.1.normalize, clean raw.2⟩) fun e' he' heq => ?_
    obtain ⟨raw', hraw', rfl⟩ := List.mem_map.1 he'
    have hmem : raw' ∈ raws.entries := by
      rw [hsplit]
      exact List.mem_append_right _ (List.mem_cons_of_mem _ hraw')
    exact String.not_le.2 (hascending.2.1.1 raw' hraw') (hgreatest raw' hmem heq)
  · intro s hs
    refine valueOf?_putEntries_of_forall_ne fun e he => ?_
    obtain ⟨raw, hraw, rfl⟩ := List.mem_map.1 he
    exact hs raw hraw

/-! ## Merged lexicons -/

/-- A name that is not blank and has no blanks at its ends. -/
def IsCleanName (name : String) : Prop :=
  name.isBlankText = false ∧ name.trimBlanks = name

instance (name : String) : Decidable (IsCleanName name) :=
  inferInstanceAs (Decidable (_ ∧ _))

/-- At least one value, each of them not blank and without blanks at its ends. -/
def AreCleanValues (values : List String) : Prop :=
  values ≠ [] ∧ ∀ v ∈ values, IsCleanName v

instance (values : List String) : Decidable (AreCleanValues values) :=
  inferInstanceAs (Decidable (_ ∧ _))

/-- Values without the blanks at their ends. -/
def trimValues (values : List String) : List String :=
  values.map (·.trimBlanks)

/-- A lexicon is the built-in one, updated by an extension. -/
structure Lexicon.Merged (x : Extension) (l : Lexicon) : Prop where
  counterparties : SurfacesMerged builtin.counterparties x.counterparties l.counterparties
  products : EntriesMerged trimValues AreCleanValues builtin.products x.products l.products
  traders : EntriesMerged String.trimBlanks IsCleanName builtin.traders x.traders l.traders
  desks : EntriesMerged String.trimBlanks IsCleanName builtin.desks x.desks l.desks
  metrics : EntriesMerged trimValues AreCleanValues builtin.metrics x.metrics l.metrics

theorem isCleanName_trimBlanks {name : String} (h : name.isBlankText = false) :
    IsCleanName name.trimBlanks := by
  refine ⟨?_, name.trimBlanks_trimBlanks⟩
  rw [String.isBlankText_trimBlanks]
  exact h

theorem eq_trimValues_of_checkValues {table : Table} {surface : String}
    {values checked : List String} (h : checkValues table surface values = .ok checked) :
    checked = trimValues values ∧ AreCleanValues checked := by
  obtain ⟨⟨hne, hvalues⟩, rfl⟩ := checkValues_eq_ok h
  refine ⟨rfl, by simpa using hne, fun v hv => ?_⟩
  obtain ⟨w, hw, rfl⟩ := List.mem_map.1 hv
  exact isCleanName_trimBlanks (hvalues w hw)

theorem eq_trimBlanks_of_checkCanonical {table : Table} {surface canonical checked : String}
    (h : checkCanonical table surface canonical = .ok checked) :
    checked = canonical.trimBlanks ∧ IsCleanName checked := by
  obtain ⟨hblank, rfl⟩ := checkCanonical_eq_ok h
  exact ⟨rfl, isCleanName_trimBlanks hblank⟩

theorem areSurfaces_of_isPlain {surfaces : List String}
    (h : surfaces.Nodup ∧ ∀ s ∈ surfaces, s ≠ "" ∧ s.IsPlain) : AreSurfaces surfaces :=
  ⟨h.1, fun s hs => ⟨(h.2 s hs).1, String.normalize_of_isPlain (h.2 s hs).2⟩⟩

theorem areSurfaces_builtin :
    AreSurfaces Lexicon.builtin.counterparties ∧
      AreSurfaces (Lexicon.builtin.products.map (·.surface)) ∧
      AreSurfaces (Lexicon.builtin.traders.map (·.surface)) ∧
      AreSurfaces (Lexicon.builtin.desks.map (·.surface)) ∧
      AreSurfaces (Lexicon.builtin.metrics.map (·.surface)) := by
  refine ⟨?_, ?_, ?_, ?_, ?_⟩ <;> exact areSurfaces_of_isPlain (by decide +kernel)

theorem clean_builtin :
    (∀ e ∈ Lexicon.builtin.products, AreCleanValues e.value) ∧
      (∀ e ∈ Lexicon.builtin.traders, IsCleanName e.value) ∧
      (∀ e ∈ Lexicon.builtin.desks, IsCleanName e.value) ∧
      (∀ e ∈ Lexicon.builtin.metrics, AreCleanValues e.value) := by decide +kernel

theorem Lexicon.merged_of_extend {x : Extension} {l : Lexicon} (h : extend x = .ok l) :
    l.Merged x := by
  obtain ⟨hc, hp, hm, ht, hd⟩ := extend_eq_ok h
  obtain ⟨hcs, hps, hts, hds, hms⟩ := areSurfaces_builtin
  obtain ⟨hpv, htv, hdv, hmv⟩ := clean_builtin
  constructor
  · obtain ⟨hraws, heq⟩ := extendSurfaces_eq_ok hc
    rw [heq]
    exact surfacesMerged_addSurfaces hcs hraws
  · exact entriesMerged_of_extendEntries (fun _ _ _ => eq_trimValues_of_checkValues) hps hpv hp
  · exact entriesMerged_of_extendEntries (fun _ _ _ => eq_trimBlanks_of_checkCanonical) hts htv ht
  · exact entriesMerged_of_extendEntries (fun _ _ _ => eq_trimBlanks_of_checkCanonical) hds hdv hd
  · exact entriesMerged_of_extendEntries (fun _ _ _ => eq_trimValues_of_checkValues) hms hmv hm

theorem Extension.eq_empty_of_isEmpty {x : Extension} (h : x.isEmpty = true) : x = .empty := by
  have hdictionary : ∀ {β : Type} {d : Dictionary β}, d.isEmpty = true → d = .empty := by
    intro β d hd
    obtain ⟨entries, ascending⟩ := d
    have hnil : entries = [] := List.isEmpty_iff.1 hd
    subst hnil
    rfl
  obtain ⟨counterparties, products, traders, desks, metrics⟩ := x
  simp only [isEmpty, Bool.and_eq_true, List.isEmpty_iff] at h
  obtain ⟨⟨⟨⟨rfl, hp⟩, ht⟩, hd⟩, hm⟩ := h
  rw [hdictionary hp, hdictionary ht, hdictionary hd, hdictionary hm]
  rfl

/-- Every accepted extension updates the built-in lexicon as a map, and an empty one changes
nothing. -/
theorem Lexicon.extend_merges :
    (∀ (x : Extension) (l : Lexicon), extend x = .ok l → l.Merged x) ∧
      ∀ x : Extension, x.isEmpty = true → extend x = .ok builtin := by
  refine ⟨fun x l h => merged_of_extend h, fun x h => ?_⟩
  rw [Extension.eq_empty_of_isEmpty h]
  exact extend_empty

/-- Two raw keys for one surface, which is built in: the greater key gives the value. -/
theorem Lexicon.extend_merges_fx :
    ∃ l, extend { Extension.empty with
          products := .ofEntries [("fx", [" FX Spot "]), ("  FX ", ["FX Swap", "NDF"])] } = .ok l ∧
      AreSurfaces (l.products.map (·.surface)) ∧ valueOf? l.products "fx" = some ["FX Spot"] ∧
      Extension.empty.isEmpty = true ∧ extend .empty = .ok builtin := by
  have h : ∃ l, extend { Extension.empty with
      products := .ofEntries [("fx", [" FX Spot "]), ("  FX ", ["FX Swap", "NDF"])] } = .ok l :=
    ⟨_, rfl⟩
  obtain ⟨l, hl⟩ := h
  have hmerged := (extend_merges.1 _ l hl).products
  refine ⟨l, hl, hmerged.surfaces.areSurfaces, ?_, rfl, extend_merges.2 _ rfl⟩
  exact hmerged.updated ("fx", [" FX Spot "]) (by decide) (by decide +kernel)

end ReportPlan
