import ReportPlan.Proofs.Text.Canonical

/-! # Trimmed texts

Trimming takes the blanks off both ends of a text and nothing else, so the texts that it leaves as
they are have none there. Texts of this kind stay of this kind when they are joined, whatever stands
between them.

* `IsTrimmed`: no blank stands at either end.
* `trim_eq_self_iff`: the texts that trimming leaves as they are.
* `isTrimmed_intercalate`: joined texts.
-/

set_option autoImplicit false

namespace ReportPlan.Text

/-- No blank stands at either end. -/
structure IsTrimmed (s : List Char) : Prop where
  first : ∀ c ∈ s.head?, isBlank c = false
  last : ∀ c ∈ s.getLast?, isBlank c = false

theorem IsCanonical.isTrimmed {s : List Char} (h : IsCanonical s) : IsTrimmed s :=
  ⟨h.first, h.last⟩

/-! ## Trimming -/

theorem trimStart_eq_self_iff {s : List Char} :
    trimStart s = s ↔ ∀ c ∈ s.head?, isBlank c = false := by
  constructor
  · intro h c hc
    have hhead := List.head?_dropWhile_not isBlank s
    rw [← trimStart, h, Option.mem_def.1 hc] at hhead
    simpa using hhead
  · intro h
    cases s with
    | nil => rfl
    | cons c s =>
      have hc : ¬isBlank c = true := by simp [h c rfl]
      rw [trimStart, List.dropWhile_cons_of_neg hc]

theorem trim_eq_self_iff {s : List Char} : trim s = s ↔ IsTrimmed s := by
  constructor
  · intro h
    have hstart := trimStart_trim s
    have hend := trimStart_reverse_trim s
    rw [h, trimStart_eq_self_iff] at hstart hend
    exact ⟨hstart, fun c hc => hend c (by rwa [List.head?_reverse])⟩
  · intro h
    have hend : trimStart s.reverse = s.reverse := by
      refine trimStart_eq_self_iff.2 fun c hc => h.last c ?_
      rwa [← List.head?_reverse]
    rw [trim, trimStart_eq_self_iff.2 h.first, hend, List.reverse_reverse]

/-! ## Joined texts -/

theorem IsTrimmed.append {s t : List Char} (hs : IsTrimmed s) (hsne : s ≠ []) (ht : IsTrimmed t)
    (htne : t ≠ []) (between : List Char) : IsTrimmed (s ++ between ++ t) where
  first c hc := by
    obtain ⟨d, rest, rfl⟩ := List.exists_cons_of_ne_nil hsne
    exact hs.first c hc
  last c hc := by
    rw [List.getLast?_append, List.getLast?_eq_some_getLast htne, Option.some_or] at hc
    refine ht.last c ?_
    rwa [List.getLast?_eq_some_getLast htne]

theorem isTrimmed_intercalate (sep : List Char) {parts : List (List Char)} (hne : parts ≠ [])
    (h : ∀ p ∈ parts, p ≠ [] ∧ IsTrimmed p) :
    List.intercalate sep parts ≠ [] ∧ IsTrimmed (List.intercalate sep parts) := by
  induction parts with
  | nil => exact absurd rfl hne
  | cons p parts ih =>
    obtain ⟨⟨hpne, hp⟩, hrest⟩ := List.forall_mem_cons.1 h
    cases parts with
    | nil =>
      rw [List.intercalate_singleton]
      exact ⟨hpne, hp⟩
    | cons q parts =>
      obtain ⟨hjoinedne, hjoined⟩ := ih (List.cons_ne_nil q parts) hrest
      rw [List.intercalate_cons_cons]
      exact ⟨List.append_ne_nil_of_right_ne_nil _ hjoinedne, hp.append hpne hjoined hjoinedne sep⟩

end ReportPlan.Text
