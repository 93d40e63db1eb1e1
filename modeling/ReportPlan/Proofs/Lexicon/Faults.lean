import ReportPlan.Proofs.Lexicon.Validity
import ReportPlan.Proofs.Text.ByteOrder

/-! # Faults of extensions

An extension is refused exactly if one of its entries has a fault, and the error is that of the
first such entry. Counterparties come first, in the order in which they are listed, then products,
metrics, traders and desks, each in the order of the bytes of the raw keys. Of one entry, a blank
surface counts before a blank value.

* `ConfiguredEntry`: an entry of any table, as configured; `Extension.listing` has all of them.
* `ConfiguredEntry.HasFault`: what is wrong with an entry, by itself.
* `Extension.IsFaulty`: somewhere in an extension there is a fault.
* `failure?_extend`: the failure of an extension is the first fault of its listing.
* `Lexicon.extend_eq_error_iff`: when an extension is refused, and with which error.
-/

set_option autoImplicit false

namespace ReportPlan

variable {α : Type}

/-! ## Entries and their faults -/

/-- An entry as an operator configures it. A counterparty comes without values, a trader and a desk
with one. -/
structure ConfiguredEntry where
  table : Table
  raw : String
  values : Option (List String)

namespace ConfiguredEntry

/-- An entry whose surface is blank, or whose value has nothing to show or a blank part. -/
inductive HasFault (e : ConfiguredEntry) : LexiconError → Prop where
  | blankSurface (hraw : e.raw.isBlankText = true) : HasFault e (.emptySurface e.table)
  | blankValue (values : List String) (hraw : e.raw.isBlankText = false)
      (hvalues : e.values = some values)
      (hblank : values = [] ∨ ∃ v ∈ values, v.isBlankText = true) :
      HasFault e (.emptyCanonical e.table e.raw.normalize)

/-- The fault of an entry, if it has one. -/
def fault? (e : ConfiguredEntry) : Option LexiconError :=
  if e.raw.isBlankText then some (.emptySurface e.table)
  else if e.values.any fun values => values.isEmpty || values.any (·.isBlankText) then
    some (.emptyCanonical e.table e.raw.normalize)
  else none

theorem fault?_eq_some_iff {e : ConfiguredEntry} {error : LexiconError} :
    e.fault? = some error ↔ e.HasFault error := by
  rw [fault?]
  constructor
  · intro h
    split at h
    · rename_i hraw
      cases h
      exact .blankSurface hraw
    · rename_i hraw
      rw [Option.ite_none_right_eq_some, Option.any_eq_true] at h
      obtain ⟨⟨values, hvalues, hblank⟩, h⟩ := h
      cases h
      refine .blankValue values (eq_false_of_ne_true hraw) hvalues ?_
      simpa using hblank
  · rintro (hraw | ⟨values, hraw, hvalues, hblank⟩)
    · rw [if_pos hraw]
    · rw [if_neg (by simp [hraw]), if_pos]
      simpa [hvalues] using hblank

theorem fault?_eq_none_iff {e : ConfiguredEntry} :
    e.fault? = none ↔ ∀ error, ¬e.HasFault error := by
  rw [Option.eq_none_iff_forall_ne_some]
  exact forall_congr' fun error => not_congr fault?_eq_some_iff

end ConfiguredEntry

/-! ## Listings -/

/-- All entries of an extension, in the order in which they are looked at. -/
def Extension.listing (x : Extension) : List ConfiguredEntry :=
  x.counterparties.map (fun raw => ⟨.counterparties, raw, none⟩) ++
  x.products.entries.map (fun e => ⟨.products, e.1, some e.2⟩) ++
  x.metrics.entries.map (fun e => ⟨.metrics, e.1, some e.2⟩) ++
  x.traders.entries.map (fun e => ⟨.traders, e.1, some [e.2]⟩) ++
  x.desks.entries.map (fun e => ⟨.desks, e.1, some [e.2]⟩)

/-- The raw keys of each dictionary, in the order of its entries. -/
def Extension.rawKeys (x : Extension) : List (List String) :=
  [x.products.entries.map (·.1), x.metrics.entries.map (·.1), x.traders.entries.map (·.1),
    x.desks.entries.map (·.1)]

/-- A blank surface in a table, or a value that is blank, has a blank part, or has no parts. -/
inductive Extension.IsFaulty (x : Extension) : Prop where
  | counterparty (raw : String) (hmem : raw ∈ x.counterparties) (h : raw.isBlankText = true)
  | product (e : String × List String) (hmem : e ∈ x.products.entries)
      (h : e.1.isBlankText = true ∨ e.2 = [] ∨ ∃ v ∈ e.2, v.isBlankText = true)
  | metric (e : String × List String) (hmem : e ∈ x.metrics.entries)
      (h : e.1.isBlankText = true ∨ e.2 = [] ∨ ∃ v ∈ e.2, v.isBlankText = true)
  | trader (e : String × String) (hmem : e ∈ x.traders.entries)
      (h : e.1.isBlankText = true ∨ e.2.isBlankText = true)
  | desk (e : String × String) (hmem : e ∈ x.desks.entries)
      (h : e.1.isBlankText = true ∨ e.2.isBlankText = true)

namespace ConfiguredEntry

theorem exists_hasFault_iff {e : ConfiguredEntry} :
    (∃ error, e.HasFault error) ↔ e.raw.isBlankText = true ∨
      ∃ values, e.values = some values ∧
        (values = [] ∨ ∃ v ∈ values, v.isBlankText = true) := by
  constructor
  · rintro ⟨_, hraw | ⟨values, -, hvalues, hblank⟩⟩
    · exact .inl hraw
    · exact .inr ⟨values, hvalues, hblank⟩
  · intro h
    cases hraw : e.raw.isBlankText with
    | true => exact ⟨_, .blankSurface hraw⟩
    | false =>
      rcases h with h | ⟨values, hvalues, hblank⟩
      · rw [hraw] at h
        cases h
      · exact ⟨_, .blankValue values hraw hvalues hblank⟩

end ConfiguredEntry

theorem Extension.isFaulty_iff {x : Extension} :
    x.IsFaulty ↔ ∃ e ∈ x.listing, ∃ error, e.HasFault error := by
  simp only [ConfiguredEntry.exists_hasFault_iff, listing, List.mem_append, List.mem_map]
  constructor
  · rintro (⟨raw, hmem, h⟩ | ⟨e, hmem, h⟩ | ⟨e, hmem, h⟩ | ⟨e, hmem, h⟩ | ⟨e, hmem, h⟩)
    · exact ⟨_, .inl (.inl (.inl (.inl ⟨raw, hmem, rfl⟩))), .inl h⟩
    · exact ⟨_, .inl (.inl (.inl (.inr ⟨e, hmem, rfl⟩))), h.imp_right fun h => ⟨_, rfl, h⟩⟩
    · exact ⟨_, .inl (.inl (.inr ⟨e, hmem, rfl⟩)), h.imp_right fun h => ⟨_, rfl, h⟩⟩
    · exact ⟨_, .inl (.inr ⟨e, hmem, rfl⟩), h.imp_right fun h => ⟨_, rfl, by simpa using h⟩⟩
    · exact ⟨_, .inr ⟨e, hmem, rfl⟩, h.imp_right fun h => ⟨_, rfl, by simpa using h⟩⟩
  · rintro ⟨_, (((⟨raw, hmem, rfl⟩ | ⟨e, hmem, rfl⟩) | ⟨e, hmem, rfl⟩) | ⟨e, hmem, rfl⟩) |
      ⟨e, hmem, rfl⟩, h⟩
    · exact .counterparty raw hmem (by simpa using h)
    · exact .product e hmem (by simpa using h)
    · exact .metric e hmem (by simpa using h)
    · exact .trader e hmem (by simpa using h)
    · exact .desk e hmem (by simpa using h)

theorem Extension.rawKeys_ascending (x : Extension) :
    ∀ keys ∈ x.rawKeys, keys.Pairwise fun a b => a.utf8Bytes < b.utf8Bytes := by
  have hkeys : ∀ {β : Type} (d : Dictionary β),
      (d.entries.map (·.1)).Pairwise fun a b => a.utf8Bytes < b.utf8Bytes := by
    intro β d
    rw [List.pairwise_map]
    exact d.ascending_utf8Bytes
  simp only [rawKeys, List.forall_mem_cons]
  exact ⟨hkeys _, hkeys _, hkeys _, hkeys _, List.forall_mem_nil _⟩

/-! ## The first fault -/

theorem failure?_checkSurface (table : Table) (raw : String) :
    failure? (checkSurface table raw) =
      if raw.isBlankText then some (.emptySurface table) else none := by
  rw [checkSurface]
  split <;> rfl

theorem failure?_extendSurfaces (base raws : List String) :
    failure? (extendSurfaces base raws) =
      raws.findSome? fun raw => ConfiguredEntry.fault? ⟨.counterparties, raw, none⟩ := by
  refine failure?_foldlM (fun acc raw => ?_) raws base
  rw [failure?_bind_pure, failure?_checkSurface, ConfiguredEntry.fault?]
  simp

/-- A table whose check refuses the values without anything to show, and no others. -/
theorem failure?_extendEntries {table : Table}
    {check : Table → String → α → Except LexiconError α} {values : α → List String}
    (hcheck : ∀ surface value, failure? (check table surface value) =
      if (values value).isEmpty || (values value).any (·.isBlankText) then
        some (.emptyCanonical table surface) else none)
    (base : List (Entry α)) (raws : Dictionary α) :
    failure? (extendEntries table check base raws) =
      raws.entries.findSome? fun e => ConfiguredEntry.fault? ⟨table, e.1, some (values e.2)⟩ := by
  refine failure?_foldlM (fun acc e => ?_) raws.entries base
  cases hraw : e.1.isBlankText with
  | true => simp [checkSurface, ConfiguredEntry.fault?, hraw, failure?, bind, Except.bind]
  | false =>
    have hsurface : checkSurface table e.1 = .ok e.1.normalize := by simp [checkSurface, hraw]
    rw [hsurface]
    -- the surface is in order, and only the check of the value is left
    show failure? (do return putEntry e.1.normalize (← check table e.1.normalize e.2) acc) = _
    rw [failure?_bind_pure, hcheck, ConfiguredEntry.fault?]
    simp [hraw]

theorem failure?_checkValues (table : Table) (surface : String) (values : List String) :
    failure? (checkValues table surface values) =
      if values.isEmpty || values.any (·.isBlankText) then some (.emptyCanonical table surface)
      else none := by
  rw [checkValues]
  split <;> rfl

theorem failure?_checkCanonical (table : Table) (surface canonical : String) :
    failure? (checkCanonical table surface canonical) =
      if [canonical].isEmpty || [canonical].any (·.isBlankText) then
        some (.emptyCanonical table surface) else none := by
  rw [checkCanonical]
  simp only [List.isEmpty_cons, List.any_cons, List.any_nil, Bool.or_false, Bool.false_or]
  split <;> rfl

theorem failure?_extend (x : Extension) :
    failure? (Lexicon.extend x) = x.listing.findSome? ConfiguredEntry.fault? := by
  -- one table after the other, and none of them fails because of an earlier one
  have hsteps : failure? (Lexicon.extend x) =
      (failure? (extendSurfaces Lexicon.builtin.counterparties x.counterparties)).or
        ((failure? (extendEntries .products checkValues Lexicon.builtin.products x.products)).or
          ((failure? (extendEntries .metrics checkValues Lexicon.builtin.metrics x.metrics)).or
            ((failure? (extendEntries .traders checkCanonical Lexicon.builtin.traders x.traders)).or
              ((failure? (extendEntries .desks checkCanonical Lexicon.builtin.desks x.desks)).or
                none)))) :=
    failure?_bind fun _ => failure?_bind fun _ => failure?_bind fun _ => failure?_bind fun _ =>
      failure?_bind fun _ => rfl
  rw [hsteps, failure?_extendSurfaces, failure?_extendEntries (failure?_checkValues _),
    failure?_extendEntries (failure?_checkValues _),
    failure?_extendEntries (failure?_checkCanonical _),
    failure?_extendEntries (failure?_checkCanonical _), Extension.listing]
  simp only [List.findSome?_append, List.findSome?_map, Option.or_assoc, Option.or_none]
  rfl

theorem exists_extend_iff {x : Extension} :
    (∃ l, Lexicon.extend x = .ok l) ↔ ¬x.IsFaulty := by
  rw [← failure?_eq_none_iff, failure?_extend, List.findSome?_eq_none_iff, Extension.isFaulty_iff]
  simp [ConfiguredEntry.fault?_eq_none_iff]

/-- An extension is refused exactly if it has a fault somewhere. The error is that of the first
entry with a fault, where the entries of a dictionary are in the order of the bytes of their raw
keys. -/
theorem Lexicon.extend_eq_error_iff (x : Extension) :
    ((∃ error, extend x = .error error) ↔ x.IsFaulty) ∧
      (∀ error, extend x = .error error ↔
        ∃ earlier e later, x.listing = earlier ++ e :: later ∧ e.HasFault error ∧
          ∀ e' ∈ earlier, ∀ error', ¬e'.HasFault error') ∧
      ∀ keys ∈ x.rawKeys, keys.Pairwise fun a b => a.utf8Bytes < b.utf8Bytes := by
  refine ⟨?_, fun error => ?_, x.rawKeys_ascending⟩
  · simp only [Extension.isFaulty_iff, ← failure?_eq_some_iff, failure?_extend,
      ← Option.isSome_iff_exists, List.findSome?_isSome_iff]
    simp only [Option.isSome_iff_exists, ConfiguredEntry.fault?_eq_some_iff]
  · rw [← failure?_eq_some_iff, failure?_extend, List.findSome?_eq_some_iff]
    simp only [ConfiguredEntry.fault?_eq_some_iff, ConfiguredEntry.fault?_eq_none_iff]

/-- Of two metrics with faults the first one counts, and the error names the normal form of its
surface. -/
example :
    failure? (Lexicon.extend { Extension.empty with
        counterparties := ["Providus Bank"]
        metrics := .ofEntries [("MTM  Value", ["mtm", " "]), ("zzz", [])] }) =
      some (.emptyCanonical .metrics "mtm value") := by
  rw [failure?_extend]
  decide +kernel

end ReportPlan
