import ReportPlan.Lexicon.Extension
import ReportPlan.Proofs.Text.Nonblank

/-! # Valid lexicons

Whatever an operator configures, an accepted extension leaves no surface of a counterparty and no
value blank, and no entry with several values is left without any.

* `Lexicon.Valid`: the tables of a lexicon have values that can stand in a report.
* `forall_mem_extendEntries`: what the entries of a table and the checked entries of an extension
  have in common, all entries of the extended table have.
* `Lexicon.valid_of_extend`: every accepted extension gives a valid lexicon.
-/

set_option autoImplicit false

namespace ReportPlan

variable {α : Type}

/-! ## Validity -/

/-- At least one value, and none of them blank. -/
def AreValues (values : List String) : Prop :=
  values ≠ [] ∧ ∀ v ∈ values, v.isBlankText = false

instance (values : List String) : Decidable (AreValues values) :=
  inferInstanceAs (Decidable (_ ∧ _))

/-- No value of a lexicon is blank, and no entry is without values. -/
structure Lexicon.Valid (l : Lexicon) : Prop where
  counterparties : ∀ s ∈ l.counterparties, s.isBlankText = false
  products : ∀ e ∈ l.products, AreValues e.value
  traders : ∀ e ∈ l.traders, e.value.isBlankText = false
  desks : ∀ e ∈ l.desks, e.value.isBlankText = false
  metrics : ∀ e ∈ l.metrics, AreValues e.value

theorem Lexicon.valid_builtin : builtin.Valid where
  counterparties := by decide +kernel
  products := by decide +kernel
  traders := by decide +kernel
  desks := by decide +kernel
  metrics := by decide +kernel

/-! ## Checks -/

theorem checkSurface_eq_ok {table : Table} {raw surface : String}
    (h : checkSurface table raw = .ok surface) :
    raw.isBlankText = false ∧ surface = raw.normalize := by
  unfold checkSurface at h
  split at h
  · cases h
  · rename_i hblank
    cases h
    exact ⟨eq_false_of_ne_true hblank, rfl⟩

theorem checkValues_eq_ok {table : Table} {surface : String} {values checked : List String}
    (h : checkValues table surface values = .ok checked) :
    AreValues values ∧ checked = values.map (·.trimBlanks) := by
  unfold checkValues at h
  split at h
  · cases h
  · rename_i hvalues
    cases h
    simp only [Bool.or_eq_true, not_or, List.isEmpty_iff, List.any_eq_true, not_exists, not_and,
      Bool.not_eq_true] at hvalues
    exact ⟨hvalues, rfl⟩

theorem checkCanonical_eq_ok {table : Table} {surface canonical checked : String}
    (h : checkCanonical table surface canonical = .ok checked) :
    canonical.isBlankText = false ∧ checked = canonical.trimBlanks := by
  unfold checkCanonical at h
  split at h
  · cases h
  · rename_i hblank
    cases h
    exact ⟨eq_false_of_ne_true hblank, rfl⟩

theorem areValues_of_checkValues {table : Table} {surface : String} {values checked : List String}
    (h : checkValues table surface values = .ok checked) : AreValues checked := by
  obtain ⟨⟨hne, hvalues⟩, rfl⟩ := checkValues_eq_ok h
  refine ⟨by simpa using hne, fun v hv => ?_⟩
  obtain ⟨w, hw, rfl⟩ := List.mem_map.1 hv
  rw [String.isBlankText_trimBlanks]
  exact hvalues w hw

theorem isBlankText_of_checkCanonical {table : Table} {surface canonical checked : String}
    (h : checkCanonical table surface canonical = .ok checked) : checked.isBlankText = false := by
  obtain ⟨hblank, rfl⟩ := checkCanonical_eq_ok h
  rw [String.isBlankText_trimBlanks]
  exact hblank

/-! ## Merging -/

theorem mem_putEntry {surface : String} {value : α} {table : List (Entry α)} {e : Entry α}
    (h : e ∈ putEntry surface value table) : e = ⟨surface, value⟩ ∨ e ∈ table := by
  induction table with
  | nil => simpa [putEntry] using h
  | cons first rest ih =>
    rw [putEntry] at h
    split at h
    · rcases List.mem_cons.1 h with h | h
      · exact Or.inl h
      · exact Or.inr (List.mem_cons_of_mem _ h)
    · rcases List.mem_cons.1 h with rfl | h
      · exact Or.inr List.mem_cons_self
      · exact (ih h).imp_right (List.mem_cons_of_mem _)

theorem mem_putSurface {surface s : String} {table : List String}
    (h : s ∈ putSurface surface table) : s = surface ∨ s ∈ table := by
  unfold putSurface at h
  split at h
  · exact Or.inr h
  · rcases List.mem_append.1 h with h | h
    · exact Or.inr h
    · exact Or.inl (List.mem_singleton.1 h)

/-- A property of the surfaces of a table that checked surfaces have is kept. -/
theorem forall_mem_extendSurfaces {P : String → Prop} {base raws result : List String}
    (hbase : ∀ s ∈ base, P s)
    (hcheck : ∀ raw surface, checkSurface .counterparties raw = .ok surface → P surface)
    (h : extendSurfaces base raws = .ok result) : ∀ s ∈ result, P s := by
  refine foldlM_invariant (P := fun table => ∀ s ∈ table, P s) ?_ hbase h
  intro table raw table' htable hput s hs
  obtain ⟨surface, hsurface, heq⟩ := bind_eq_ok_iff.1 hput
  cases heq
  rcases mem_putSurface hs with rfl | hs
  · exact hcheck raw s hsurface
  · exact htable s hs

/-- A property of the entries of a table that checked entries have is kept. -/
theorem forall_mem_extendEntries {P : Entry α → Prop} {table : Table}
    {check : Table → String → α → Except LexiconError α} {base result : List (Entry α)}
    {entries : Dictionary α} (hbase : ∀ e ∈ base, P e)
    (hcheck : ∀ raw surface value checked, checkSurface table raw = .ok surface →
      check table surface value = .ok checked → P ⟨surface, checked⟩)
    (h : extendEntries table check base entries = .ok result) : ∀ e ∈ result, P e := by
  refine foldlM_invariant (P := fun acc => ∀ e ∈ acc, P e) ?_ hbase h
  intro acc raw acc' hacc hput e he
  obtain ⟨surface, hsurface, hrest⟩ := bind_eq_ok_iff.1 hput
  obtain ⟨checked, hchecked, heq⟩ := bind_eq_ok_iff.1 hrest
  cases heq
  rcases mem_putEntry he with rfl | he
  · exact hcheck raw.1 surface raw.2 checked hsurface hchecked
  · exact hacc e he

/-! ## Accepted extensions -/

/-- The tables of an extended lexicon, each extended on its own. -/
theorem Lexicon.extend_eq_ok {x : Extension} {l : Lexicon} (h : extend x = .ok l) :
    extendSurfaces builtin.counterparties x.counterparties = .ok l.counterparties ∧
    extendEntries .products checkValues builtin.products x.products = .ok l.products ∧
    extendEntries .metrics checkValues builtin.metrics x.metrics = .ok l.metrics ∧
    extendEntries .traders checkCanonical builtin.traders x.traders = .ok l.traders ∧
    extendEntries .desks checkCanonical builtin.desks x.desks = .ok l.desks := by
  obtain ⟨counterparties, hc, h⟩ := bind_eq_ok_iff.1 h
  obtain ⟨products, hp, h⟩ := bind_eq_ok_iff.1 h
  obtain ⟨metrics, hm, h⟩ := bind_eq_ok_iff.1 h
  obtain ⟨traders, ht, h⟩ := bind_eq_ok_iff.1 h
  obtain ⟨desks, hd, h⟩ := bind_eq_ok_iff.1 h
  cases h
  exact ⟨hc, hp, hm, ht, hd⟩

theorem Lexicon.valid_of_extend {x : Extension} {l : Lexicon} (h : extend x = .ok l) : l.Valid := by
  obtain ⟨hc, hp, hm, ht, hd⟩ := extend_eq_ok h
  constructor
  · refine forall_mem_extendSurfaces valid_builtin.counterparties (fun raw surface hs => ?_) hc
    obtain ⟨hblank, rfl⟩ := checkSurface_eq_ok hs
    exact String.isBlankText_normalize hblank
  · exact forall_mem_extendEntries valid_builtin.products
      (fun _ _ _ _ _ hv => areValues_of_checkValues hv) hp
  · exact forall_mem_extendEntries valid_builtin.traders
      (fun _ _ _ _ _ hv => isBlankText_of_checkCanonical hv) ht
  · exact forall_mem_extendEntries valid_builtin.desks
      (fun _ _ _ _ _ hv => isBlankText_of_checkCanonical hv) hd
  · exact forall_mem_extendEntries valid_builtin.metrics
      (fun _ _ _ _ _ hv => areValues_of_checkValues hv) hm

end ReportPlan
