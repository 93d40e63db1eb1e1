import ReportPlan.Matching

/-! # More words behind a text

More words leave what stands before them as it is: its normal form, and the keywords found in it.

* `Text.normalize_append_space`: the normal form of a text with more words behind it.
* `Text.Extends`: a text begins with another one, which ends there or before a space.
* `MatchMode.mem_occurrences_append`: occurrences stay where they are in a longer text.
* `MatchMode.has_of_extends`: so a longer text has every keyword of the shorter one.
-/

set_option autoImplicit false

namespace ReportPlan

namespace Text

/-! ## Letter case -/

theorem meetsCased_append_space (s t : List Char) : meetsCased (s ++ ' ' :: t) = meetsCased s := by
  have hspace : isCaseIgnorable ' ' = false ∧ isCased ' ' = false := by decide
  induction s with
  | nil => simp [meetsCased, hspace]
  | cons c s ih =>
    by_cases hc : isCaseIgnorable c = true
    · simpa [meetsCased, hc] using ih
    · simp [meetsCased, hc]

theorem lowercaseAfter_append_before (u v s : List Char) :
    lowercaseAfter (u ++ ' ' :: v) s = lowercaseAfter u s := by
  induction s generalizing u with
  | nil => rfl
  | cons c s ih =>
    rw [lowercaseAfter, lowercaseAfter, lowerSigma, lowerSigma, meetsCased_append_space]
    exact congrArg _ (ih (c :: u))

/-- A space parts the letters that decide the case of a sigma. -/
theorem lowercaseAfter_append_space (before s t : List Char) :
    lowercaseAfter before (s ++ ' ' :: t) = lowercaseAfter before s ++ ' ' :: lowercase t := by
  induction s generalizing before with
  | nil =>
    have hspace : lowerChar ' ' = [' '] := by decide
    have hrest : lowercaseAfter (' ' :: before) t = lowercase t :=
      lowercaseAfter_append_before [] before t
    simp [lowercaseAfter, hspace, hrest]
  | cons c s ih =>
    rw [List.cons_append, lowercaseAfter, lowercaseAfter, lowerSigma, lowerSigma,
      meetsCased_append_space, ih, List.append_assoc]

/-! ## Normal forms -/

theorem unwords_singleton (w : List Char) : unwords [w] = w :=
  List.intercalate_singleton

theorem unwords_cons_cons (w w' : List Char) (ws : List (List Char)) :
    unwords (w :: w' :: ws) = w ++ ' ' :: unwords (w' :: ws) := by
  simp [unwords, List.intercalate_cons_cons]

theorem unwords_append {ws vs : List (List Char)} (hws : ws ≠ []) (hvs : vs ≠ []) :
    unwords (ws ++ vs) = unwords ws ++ ' ' :: unwords vs := by
  induction ws with
  | nil => exact absurd rfl hws
  | cons w ws ih =>
    cases ws with
    | nil =>
      obtain ⟨v, vs, rfl⟩ := List.exists_cons_of_ne_nil hvs
      rw [List.singleton_append, unwords_cons_cons, unwords_singleton]
    | cons w' ws =>
      rw [List.cons_append, List.cons_append, unwords_cons_cons, unwords_cons_cons,
        ← List.cons_append, ih (List.cons_ne_nil w' ws), List.append_assoc, List.cons_append]

theorem normalize_of_words_eq_nil {s : List Char} (h : words s = []) : normalize s = [] := by
  rw [normalize, h]
  rfl

/-- The normal form of a text with more words behind it is that of the text, a space, and that of
the words. -/
theorem normalize_append_space {s t : List Char} (hs : words s ≠ []) (ht : words t ≠ []) :
    normalize (s ++ ' ' :: t) = normalize s ++ ' ' :: normalize t := by
  rw [normalize, words_append_blank isBlank_space, unwords_append hs ht]
  exact lowercaseAfter_append_space [] _ _

/-- A text is empty, or another one begins with it and goes on with a space or not at all. -/
def Extends (text longer : List Char) : Prop :=
  text = [] ∨ longer = text ∨ ∃ rest, longer = text ++ ' ' :: rest

theorem normalize_extends (s t : List Char) :
    Extends (normalize s) (normalize (s ++ ' ' :: t)) := by
  by_cases hs : words s = []
  · exact .inl (normalize_of_words_eq_nil hs)
  · by_cases ht : words t = []
    · refine .inr (.inl ?_)
      rw [normalize, words_append_blank isBlank_space, ht, List.append_nil, normalize]
    · exact .inr (.inr ⟨normalize t, normalize_append_space hs ht⟩)

end Text

/-! ## Occurrences -/

theorem length_le_of_mem_scanFrom {needle s : List Char} {skip offset : Nat} {before : Option Char}
    {o : Occurrence} (h : o ∈ scanFrom needle skip offset before s) :
    needle.length ≤ s.length := by
  induction s generalizing skip offset before with
  | nil =>
    rw [scanFrom] at h
    split at h
    · rename_i hnil
      exact Nat.le_of_eq (congrArg List.length (List.isEmpty_iff.1 hnil))
    · cases h
  | cons c s ih =>
    rw [List.length_cons]
    cases skip with
    | succ skip =>
      rw [scanFrom] at h
      exact Nat.le_succ_of_le (ih h)
    | zero =>
      rw [scanFrom] at h
      split at h
      · rename_i hstarts
        exact (List.isPrefixOf_iff_prefix.1 hstarts).length_le
      · exact Nat.le_succ_of_le (ih h)

/-- An occurrence is found again in a text that goes on with a space. A keyword that reaches beyond
the shorter text is met only behind its last occurrence there. -/
theorem mem_scanFrom_append {needle : List Char} (hneedle : needle ≠ []) (t : List Char)
    {s : List Char} {skip offset : Nat} {before : Option Char} {o : Occurrence}
    (h : o ∈ scanFrom needle skip offset before s) :
    ∃ o' ∈ scanFrom needle skip offset before (s ++ ' ' :: t),
      o'.span = o.span ∧ o'.before = o.before ∧
        (o'.after = o.after ∨ o.after = none ∧ o'.after = some ' ') := by
  induction s generalizing skip offset before with
  | nil =>
    have hlength := length_le_of_mem_scanFrom h
    exact absurd (List.eq_nil_of_length_eq_zero (Nat.le_zero.1 hlength)) hneedle
  | cons c s ih =>
    cases skip with
    | succ skip =>
      rw [scanFrom] at h
      exact ih h
    | zero =>
      have hsplit : c :: s ++ ' ' :: t = c :: (s ++ ' ' :: t) := rfl
      rw [scanFrom] at h
      rw [hsplit, scanFrom]
      split at h
      · rename_i hstarts
        have hlength := (List.isPrefixOf_iff_prefix.1 hstarts).length_le
        have hlonger : needle.isPrefixOf (c :: (s ++ ' ' :: t)) = true :=
          List.isPrefixOf_iff_prefix.2
            ((List.isPrefixOf_iff_prefix.1 hstarts).trans (List.prefix_append (c :: s) _))
        rw [if_pos hlonger]
        rcases List.mem_cons.1 h with rfl | h
        · refine ⟨_, List.mem_cons_self, rfl, rfl, ?_⟩
          rw [← hsplit]
          by_cases hlt : needle.length < (c :: s).length
          · exact .inl (List.getElem?_append_left hlt)
          · have heq : needle.length = (c :: s).length := by omega
            right
            simp [heq]
        · obtain ⟨o', ho', hsame⟩ := ih h
          exact ⟨o', List.mem_cons_of_mem _ ho', hsame⟩
      · rename_i hstarts
        have hlength := length_le_of_mem_scanFrom h
        -- an occurrence further on shows that the keyword fits in, so it does not begin here either
        have hlonger : ¬needle.isPrefixOf (c :: (s ++ ' ' :: t)) = true := by
          intro hlonger
          refine hstarts (List.isPrefixOf_iff_prefix.2 ?_)
          exact List.prefix_of_prefix_length_le (List.isPrefixOf_iff_prefix.1 hlonger)
            (List.prefix_append (c :: s) (' ' :: t)) (Nat.le_succ_of_le hlength)
        rw [if_neg hlonger]
        exact ih h

namespace MatchMode

variable {mode : MatchMode} {text longer : List Char}

theorem contains_nil_left (needle : List Char) : mode.contains [] needle = false := by
  cases needle <;> rfl

theorem contains_eq_true_iff {needle : List Char} :
    mode.contains text needle = true ↔
      needle ≠ [] ∧ ∃ span, span ∈ mode.occurrences text needle := by
  rw [contains, Bool.and_eq_true, Bool.not_eq_true', Bool.not_eq_true', List.isEmpty_eq_false_iff,
    List.isEmpty_eq_false_iff_exists_mem]

theorem mem_occurrences_append {needle : List Char} (hneedle : needle ≠ []) (t : List Char)
    {span : Span} (h : span ∈ mode.occurrences text needle) :
    span ∈ mode.occurrences (text ++ ' ' :: t) needle := by
  simp only [occurrences, List.mem_map, List.mem_filter] at h ⊢
  obtain ⟨o, ⟨ho, haccepts⟩, rfl⟩ := h
  obtain ⟨o', ho', hspan, hbefore, hafter⟩ := mem_scanFrom_append hneedle t ho
  refine ⟨o', ⟨ho', ?_⟩, hspan⟩
  cases mode with
  | substring => rfl
  | wordBoundary =>
    have hspace : Text.isAlphanumeric ' ' = false := by decide
    rw [accepts, hbefore]
    rcases hafter with hafter | ⟨hnone, hafter⟩
    · rw [hafter]
      exact haccepts
    · rw [accepts, hnone] at haccepts
      rw [hafter, Option.any_some, hspace]
      exact haccepts

/-- A longer text has every keyword of the shorter one. -/
theorem has_of_extends (h : Text.Extends text longer) {keyword : String}
    (hhas : mode.has text keyword = true) : mode.has longer keyword = true := by
  rcases h with rfl | rfl | ⟨t, rfl⟩
  · rw [has, contains_nil_left] at hhas
    cases hhas
  · exact hhas
  · obtain ⟨hne, span, hspan⟩ := contains_eq_true_iff.1 hhas
    exact contains_eq_true_iff.2 ⟨hne, span, mem_occurrences_append hne t hspan⟩

end MatchMode
end ReportPlan
