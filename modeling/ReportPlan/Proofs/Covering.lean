import Mathlib.Data.Set.Finite.Lemmas
import ReportPlan.Mention
import ReportPlan.Proofs.Text.Appended

/-! # Covering keeps a mention

Occurrences of the surfaces of one table cover one another: an occurrence within one of a longer
surface does not count. What counts is stated here without the function that decides it, and no
place where something occurs is left without a mention: of all occurrences around it, one with the
longest surface is covered by nothing.

* `OccursAt`: a surface that is not empty occurs at a span.
* `CoveredAt`: that span lies within an occurrence of a longer surface of the table.
* `mentioned_eq_filter`: the entries mentioned are those with an occurrence that is not covered.
* `mention_around_occurrence`: every occurrence lies within one that makes a mention.
-/

set_option autoImplicit false

namespace ReportPlan

variable {α : Type}

/-! ## Occurrences and covering -/

/-- A surface that is not empty has an occurrence that the mode accepts. -/
def OccursAt (mode : MatchMode) (text : List Char) (s : String) (span : Span) : Prop :=
  s ≠ "" ∧ span ∈ mode.occurrences text s.toList

theorem has_iff_occursAt {mode : MatchMode} {text : List Char} {s : String} :
    mode.has text s = true ↔ ∃ span, OccursAt mode text s span := by
  rw [MatchMode.has, MatchMode.contains_eq_true_iff]
  simp only [OccursAt, ne_eq, String.toList_eq_nil_iff, exists_and_left]

/-- A longer surface of a table occurs over a span that contains the given one. -/
def CoveredAt (mode : MatchMode) (text : List Char) (surface : α → String) (table : List α)
    (s : String) (span : Span) : Prop :=
  ∃ e ∈ table, ∃ outer, OccursAt mode text (surface e) outer ∧
    byteLength s.toList < byteLength (surface e).toList ∧ span.within outer = true

theorem Span.within_refl (span : Span) : span.within span = true := by
  simp [within]

theorem Span.within_trans {a b c : Span} (hab : a.within b = true) (hbc : b.within c = true) :
    a.within c = true := by
  simp only [within, Bool.and_eq_true, decide_eq_true_eq] at *
  omega

theorem mem_spans_iff {mode : MatchMode} {text : List Char} {s : String} {span : Span} :
    span ∈ (if s.toList.isEmpty then [] else mode.occurrences text s.toList) ↔
      OccursAt mode text s span := by
  unfold OccursAt
  by_cases h : s = ""
  · simp [h]
  · have hne : s.toList.isEmpty = false := by simpa using h
    simp [h, hne]

/-- What `covered` computes from the spans of a whole table. -/
theorem covered_sightings_iff {mode : MatchMode} {text : List Char} {surface : α → String}
    {table : List α} {s : String} {span : Span} :
    covered (sightings mode text surface table) s.toList span = true ↔
      CoveredAt mode text surface table s span := by
  simp only [covered, sightings, List.any_map, List.any_eq_true, Function.comp_apply,
    Bool.and_eq_true, decide_eq_true_eq, mem_spans_iff]
  constructor
  · rintro ⟨e, he, hlt, outer, houter, hin⟩
    exact ⟨e, he, outer, houter, hlt, hin⟩
  · rintro ⟨e, he, outer, houter, hlt, hin⟩
    exact ⟨e, he, hlt, outer, houter, hin⟩

/-- What is seen of one entry in a text. -/
def sighting (mode : MatchMode) (text : List Char) (surface : α → String) (e : α) : Sighting α :=
  ⟨e, (surface e).toList,
    if (surface e).toList.isEmpty then [] else mode.occurrences text (surface e).toList⟩

theorem sightings_eq_map (mode : MatchMode) (text : List Char) (surface : α → String)
    (table : List α) :
    sightings mode text surface table = table.map (sighting mode text surface) := rfl

theorem isMention_sighting_iff {mode : MatchMode} {text : List Char} {surface : α → String}
    {table : List α} {e : α} :
    Sighting.isMention (sightings mode text surface table) (sighting mode text surface e) = true ↔
      ∃ span, OccursAt mode text (surface e) span ∧
        ¬CoveredAt mode text surface table (surface e) span := by
  simp only [Sighting.isMention, sighting, List.any_eq_true, mem_spans_iff, Bool.not_eq_true',
    ← Bool.not_eq_true, covered_sightings_iff]

open scoped Classical in
/-- The entries mentioned are those of the table that have an occurrence which is not covered. -/
theorem mentioned_eq_filter (mode : MatchMode) (text : List Char) (surface : α → String)
    (table : List α) :
    mentioned mode text surface table = table.filter fun e =>
      ∃ span, OccursAt mode text (surface e) span ∧
        ¬CoveredAt mode text surface table (surface e) span := by
  have hfilter : mentioned mode text surface table = table.filter fun e =>
      Sighting.isMention (sightings mode text surface table) (sighting mode text surface e) := by
    have hentry : Sighting.entry ∘ sighting mode text surface = id := rfl
    rw [mentioned, sightings_eq_map, List.filter_map, List.map_map, hentry, List.map_id]
    rfl
  rw [hfilter]
  refine List.filter_congr fun e _ => ?_
  rw [Bool.eq_iff_iff, decide_eq_true_iff]
  exact isMention_sighting_iff

/-- An entry is mentioned exactly if its surface has an occurrence that is not covered. -/
theorem mem_mentioned_iff {mode : MatchMode} {text : List Char} {surface : α → String}
    {table : List α} {e : α} :
    e ∈ mentioned mode text surface table ↔
      e ∈ table ∧ ∃ span, OccursAt mode text (surface e) span ∧
        ¬CoveredAt mode text surface table (surface e) span := by
  classical
  rw [mentioned_eq_filter, List.mem_filter, decide_eq_true_iff]

theorem has_of_mem_mentioned {mode : MatchMode} {text : List Char} {surface : α → String}
    {table : List α} {e : α} (h : e ∈ mentioned mode text surface table) :
    mode.has text (surface e) = true := by
  obtain ⟨-, span, hspan, -⟩ := mem_mentioned_iff.1 h
  exact has_iff_occursAt.2 ⟨span, hspan⟩

/-! ## The longest surface around a span -/

/-- Of the surfaces that occur around a span, one is the longest. -/
theorem exists_longest_around {mode : MatchMode} {text : List Char} {surface : α → String}
    {table : List α} {e : α} {span : Span} (he : e ∈ table)
    (h : OccursAt mode text (surface e) span) :
    ∃ e' ∈ table, ∃ outer, OccursAt mode text (surface e') outer ∧ span.within outer = true ∧
      ∀ e'' ∈ table, ∀ o, OccursAt mode text (surface e'') o → span.within o = true →
        byteLength (surface e'').toList ≤ byteLength (surface e').toList := by
  let around : Set α :=
    {a | a ∈ table ∧ ∃ outer, OccursAt mode text (surface a) outer ∧ span.within outer = true}
  have hfinite : around.Finite := (List.finite_toSet table).subset fun a ha => ha.1
  have hnonempty : around.Nonempty := ⟨e, he, span, h, span.within_refl⟩
  obtain ⟨e', ⟨he', outer, houter, hin⟩, hmax⟩ :=
    Set.exists_max_image around (fun a => byteLength (surface a).toList) hfinite hnonempty
  exact ⟨e', he', outer, houter, hin, fun e'' he'' o ho hino => hmax e'' ⟨he'', o, ho, hino⟩⟩

/-- A longest surface around a span is not covered there, since whatever covers it is around the
span too. -/
theorem exists_mention_around {mode : MatchMode} {text : List Char} {surface : α → String}
    {table : List α} {e : α} {span : Span} (he : e ∈ table)
    (h : OccursAt mode text (surface e) span) :
    ∃ e' ∈ mentioned mode text surface table, ∃ outer, OccursAt mode text (surface e') outer ∧
      ¬CoveredAt mode text surface table (surface e') outer ∧ span.within outer = true := by
  obtain ⟨e', he', outer, houter, hin, hmax⟩ := exists_longest_around he h
  have hfree : ¬CoveredAt mode text surface table (surface e') outer := by
    rintro ⟨e'', he'', o, ho, hlt, hwithin⟩
    have hle := hmax e'' he'' o ho (Span.within_trans hin hwithin)
    omega
  exact ⟨e', mem_mentioned_iff.2 ⟨he', outer, houter, hfree⟩, outer, houter, hfree, hin⟩

/-! ## Mentions and occurrences -/

/-- Covering loses no place: an occurrence of any surface lies within an uncovered occurrence of a
mentioned one. What is mentioned has an occurrence that no longer surface covers, and nothing is
mentioned only if nothing occurs. The entries may be anything that has a surface, such as the places
of a list of surfaces. -/
theorem mention_around_occurrence (mode : MatchMode) (text : List Char) (surface : α → String)
    (table : List α) :
    (∀ e ∈ table, ∀ span, OccursAt mode text (surface e) span →
      ∃ e' ∈ mentioned mode text surface table, ∃ outer, OccursAt mode text (surface e') outer ∧
        ¬CoveredAt mode text surface table (surface e') outer ∧ span.within outer = true) ∧
    (∀ e ∈ mentioned mode text surface table, ∃ span, OccursAt mode text (surface e) span ∧
      ¬CoveredAt mode text surface table (surface e) span) ∧
    (mentioned mode text surface table = [] ↔
      ∀ e ∈ table, ∀ span, ¬OccursAt mode text (surface e) span) := by
  refine ⟨fun e he span h => exists_mention_around he h, fun e he => (mem_mentioned_iff.1 he).2, ?_⟩
  constructor
  · intro hnil e he span h
    obtain ⟨e', he', -⟩ := exists_mention_around he h
    rw [hnil] at he'
    cases he'
  · intro hnone
    refine List.eq_nil_iff_forall_not_mem.2 fun e he => ?_
    obtain ⟨hmem, span, h, -⟩ := mem_mentioned_iff.1 he
    exact hnone e hmem span h

/-- In `fx spot`, the occurrence of `fx` lies within an uncovered one of a mentioned surface. -/
theorem mention_around_fx :
    OccursAt .substring ['f', 'x', ' ', 's', 'p', 'o', 't'] "fx" ⟨0, 2⟩ ∧
      ∃ e ∈ mentioned .substring ['f', 'x', ' ', 's', 'p', 'o', 't'] id ["fx", "fx spot", "spot"],
        ∃ outer, OccursAt .substring ['f', 'x', ' ', 's', 'p', 'o', 't'] e outer ∧
          ¬CoveredAt .substring ['f', 'x', ' ', 's', 'p', 'o', 't'] id ["fx", "fx spot", "spot"] e
            outer ∧ Span.within ⟨0, 2⟩ outer = true := by
  have h : OccursAt .substring ['f', 'x', ' ', 's', 'p', 'o', 't'] "fx" ⟨0, 2⟩ := by
    unfold OccursAt
    decide
  obtain ⟨e, he, outer, houter, hcovered, hin⟩ :=
    (mention_around_occurrence .substring ['f', 'x', ' ', 's', 'p', 'o', 't'] id
      ["fx", "fx spot", "spot"]).1 "fx" (by simp) ⟨0, 2⟩ h
  exact ⟨h, e, he, outer, houter, hcovered, hin⟩

end ReportPlan
