import ReportPlan.Lexicon.Basic
import ReportPlan.Proofs.Lists
import ReportPlan.Proofs.Matching.Finding

/-! # Keywords that hide themselves

The search leaves out what overlaps an occurrence that it has found, and looks at the sides of
occurrences only afterwards. So an occurrence that is refused may hide one that would be accepted,
but only if the keyword overlaps itself, and the common part has neither a letter nor a numeral in
front of it. All other keywords are found wherever they stand alone.

* `scanFrom_skip`, `scanFrom_of_prefix`: behind an occurrence the search goes on at its end.
* `HidesItself`: a keyword overlaps itself in this way.
* `MatchMode.contains_or_hidesItself`: a keyword that stands alone is found, or it hides itself.
* `MatchMode.exists_missed_of_hidesItself`: one that hides itself is missed in some text.
* `MatchMode.wordBoundary_complete_iff`: both, for every keyword.
* `not_hidesItself_of_alphanumeric`, `Lexicon.not_hidesItself_builtin`: single words and the
  built-in surfaces are always found.
-/

set_option autoImplicit false

namespace ReportPlan

/-! ## Behind an occurrence -/

section Scan

variable {needle : List Char}

theorem scanFrom_skip (u s : List Char) (offset : Nat) (before : Option Char) :
    scanFrom needle u.length offset before (u ++ s) =
      scanFrom needle 0 (offset + byteLength u) (u.getLast?.or before) s := by
  induction u generalizing offset before with
  | nil => rfl
  | cons c u ih =>
    rw [List.length_cons, List.cons_append, scanFrom, ih, getLast?_cons_or, byteLength_cons,
      Nat.add_assoc offset]

theorem scanFrom_of_prefix (hneedle : needle ≠ []) (v : List Char) (offset : Nat)
    (before : Option Char) :
    scanFrom needle 0 offset before (needle ++ v) =
      occurrenceBetween needle offset before [] v ::
        scanFrom needle 0 (offset + byteLength needle) (needle.getLast?.or before) v := by
  rw [scanFrom_of_isPrefix hneedle, scanFrom_skip]

/-- Nothing is found in a text that is shorter than the keyword. -/
theorem scanFrom_eq_nil_of_length_lt {s : List Char} (h : s.length < needle.length)
    (skip offset : Nat) (before : Option Char) : scanFrom needle skip offset before s = [] := by
  rw [List.eq_nil_iff_forall_not_mem]
  intro o ho
  obtain ⟨u, v, rfl, -⟩ := exists_parts_of_mem_scanFrom ho
  simp only [List.length_append] at h
  omega

end Scan

/-! ## Keywords that overlap themselves -/

/-- An end of a keyword is a beginning of it too, and in front of that end stands neither a letter
nor a numeral. -/
def HidesItself (needle : List Char) : Prop :=
  ∃ n < needle.length, 0 < n ∧ needle.drop n <+: needle ∧
    (needle.take n).getLast?.any Text.isAlphanumeric = false

instance (needle : List Char) : Decidable (HidesItself needle) :=
  inferInstanceAs (Decidable (∃ n < needle.length, _))

theorem not_hidesItself_of_alphanumeric {needle : List Char}
    (h : ∀ c ∈ needle, Text.isAlphanumeric c = true) : ¬HidesItself needle := by
  rintro ⟨n, hn, hpos, -, hfront⟩
  have hne : needle.take n ≠ [] := by
    rw [← List.length_pos_iff, List.length_take]
    omega
  rw [List.getLast?_eq_some_getLast hne, Option.any_some,
    h _ (List.mem_of_mem_take (List.getLast_mem hne))] at hfront
  cases hfront

/-- No built-in surface hides itself, so that whole-word matching finds them all. -/
theorem Lexicon.not_hidesItself_builtin :
    ∀ s ∈ builtin.counterparties ++ builtin.products.map (·.surface) ++
      builtin.traders.map (·.surface) ++ builtin.desks.map (·.surface) ++
      builtin.metrics.map (·.surface), ¬HidesItself s.toList := by
  decide +kernel

namespace MatchMode

/-- Two occurrences that overlap, the second one with neither a letter nor a numeral in front. -/
theorem hidesItself_of_overlap {needle u v u' v' : List Char}
    (htext : u ++ (needle ++ v) = u' ++ (needle ++ v')) (hlt : u'.length < u.length)
    (hover : u.length < u'.length + needle.length)
    (hfront : u.getLast?.any Text.isAlphanumeric = false) : HidesItself needle := by
  obtain ⟨front, rfl, hneedle⟩ := exists_append_of_length_le htext (Nat.le_of_lt hlt)
  have hne : front ≠ [] := by
    rintro rfl
    simp at hlt
  rw [List.length_append] at hover
  have hshort : front.length ≤ needle.length := by omega
  obtain ⟨overlap, rfl, hoverlap⟩ := exists_append_of_length_le hneedle hshort
  refine ⟨front.length, by omega, List.length_pos_iff.2 hne, ?_, ?_⟩
  · rw [List.drop_left]
    exact List.prefix_of_prefix_length_le ⟨v', hoverlap.symm⟩ (List.prefix_append _ _) (by simp)
  · rw [List.take_left]
    rw [List.getLast?_append, List.getLast?_eq_some_getLast hne, Option.some_or] at hfront
    rwa [List.getLast?_eq_some_getLast hne]

/-- A keyword that stands alone is found, unless it hides itself. -/
theorem contains_or_hidesItself {needle haystack : List Char} (hneedle : needle ≠ [])
    (h : StandsAlone needle haystack) :
    wordBoundary.contains haystack needle = true ∨ HidesItself needle := by
  obtain ⟨u, v, rfl, hbefore, hafter⟩ := h
  rw [List.append_assoc]
  obtain ⟨u', v', htext, hle, hover, hmem⟩ := exists_mem_scan_over hneedle u v
  rcases Nat.lt_or_eq_of_le hle with hlt | heq
  · exact .inr (hidesItself_of_overlap htext hlt hover hbefore)
  · obtain ⟨rfl, hrest⟩ := List.append_inj htext heq.symm
    obtain rfl := List.append_cancel_left hrest
    refine .inl (contains_iff_exists_mem_scan.2 ⟨hneedle, _, hmem, accepts_wordBoundary_iff.2 ?_⟩)
    rw [occurrenceBetween, Option.or_none]
    exact ⟨hbefore, hafter⟩

/-- Behind a letter or a numeral, the beginning of a keyword that hides itself and then the keyword
make up an occurrence that is refused, and the keyword that stands alone is not looked at. -/
theorem exists_missed_of_hidesItself {needle : List Char} (h : HidesItself needle) :
    ∃ haystack, StandsAlone needle haystack ∧ wordBoundary.contains haystack needle = false := by
  obtain ⟨n, hn, hpos, ⟨back, hback⟩, hfront⟩ := h
  have hneedle : needle ≠ [] := List.ne_nil_of_length_pos (by omega)
  have hlength : back.length = n := by
    have hlengths := congrArg List.length hback
    rw [List.length_append, List.length_drop] at hlengths
    omega
  have hsplit : needle.take n ++ needle = needle ++ back :=
    calc needle.take n ++ needle
        _ = needle.take n ++ (needle.drop n ++ back) := by rw [hback]
        _ = needle ++ back := by rw [← List.append_assoc, List.take_append_drop]
  obtain ⟨c, hc, hstart⟩ : ∃ c, Text.isAlphanumeric c = true ∧ needle.head? ≠ some c := by
    by_cases ha : needle.head? = some 'a'
    · exact ⟨'b', by decide, by rw [ha]; decide⟩
    · exact ⟨'a', by decide, ha⟩
  refine ⟨c :: (needle.take n ++ needle), ⟨c :: needle.take n, [], by simp, ?_, rfl⟩, ?_⟩
  · have hne : needle.take n ≠ [] := by
      rw [← List.length_pos_iff, List.length_take]
      omega
    rwa [List.getLast?_cons_of_ne_nil hne]
  · have hnot : ¬needle.isPrefixOf (c :: (needle ++ back)) = true := by
      rw [List.isPrefixOf_iff_prefix]
      rintro ⟨tail, htail⟩
      obtain ⟨d, rest, rfl⟩ := List.exists_cons_of_ne_nil hneedle
      obtain ⟨rfl, -⟩ := List.cons.inj htail
      exact hstart rfl
    rw [hsplit, ← Bool.not_eq_true, contains_iff_exists_mem_scan, scan, scanFrom, if_neg hnot,
      scanFrom_of_prefix hneedle, scanFrom_eq_nil_of_length_lt (by omega)]
    rintro ⟨-, o, ho, haccepts⟩
    rw [List.mem_singleton.1 ho, accepts_wordBoundary_iff, occurrenceBetween] at haccepts
    rw [List.getLast?_nil, Option.none_or, Option.any_some, hc] at haccepts
    cases haccepts.1

/-- Whole-word matching finds only keywords that stand alone. It finds a keyword wherever it stands
alone exactly if the keyword does not hide itself. -/
theorem wordBoundary_complete_iff {needle : List Char} (hneedle : needle ≠ []) :
    (∀ haystack, wordBoundary.contains haystack needle = true → StandsAlone needle haystack) ∧
      ((∀ haystack, StandsAlone needle haystack → wordBoundary.contains haystack needle = true) ↔
        ¬HidesItself needle) := by
  refine ⟨fun haystack => standsAlone_of_contains, fun hcomplete hhides => ?_,
    fun hhides haystack halone => (contains_or_hidesItself hneedle halone).resolve_right hhides⟩
  obtain ⟨haystack, halone, hmissed⟩ := exists_missed_of_hidesItself hhides
  rw [hcomplete haystack halone] at hmissed
  cases hmissed

/-- A keyword that overlaps itself amid a word, and one that overlaps itself at one. -/
theorem wordBoundary_complete_anaBanana :
    ("ana banana".toList ≠ [] ∧
        ∀ haystack, StandsAlone "ana banana".toList haystack →
          wordBoundary.contains haystack "ana banana".toList = true) ∧
      ("go go".toList ≠ [] ∧
        ¬∀ haystack, StandsAlone "go go".toList haystack →
          wordBoundary.contains haystack "go go".toList = true) := by
  have hbanana : "ana banana".toList ≠ [] := by decide
  have hgo : "go go".toList ≠ [] := by decide
  refine ⟨⟨hbanana, (wordBoundary_complete_iff hbanana).2.2 (by decide)⟩, hgo, fun hall => ?_⟩
  exact (wordBoundary_complete_iff hgo).2.1 hall (by decide)

/-- The occurrence that begins in a longer word hides the one that stands alone. -/
theorem goGo_missed :
    StandsAlone "go go".toList "cargo go go".toList ∧
      wordBoundary.contains "cargo go go".toList "go go".toList = false :=
  ⟨⟨"cargo ".toList, [], by decide⟩, by decide⟩

end MatchMode
end ReportPlan
