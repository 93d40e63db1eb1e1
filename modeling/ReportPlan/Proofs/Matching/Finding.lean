import ReportPlan.Proofs.Text.Appended

/-! # What the search for a keyword finds

The search goes through a text once and leaves out what overlaps an occurrence that it has found.
What it finds does stand in the text, with the characters on its sides that are recorded; and as
nothing else is left out, a keyword that stands in a text is found.

* `exists_parts_of_mem_scan`: an occurrence divides the text.
* `occurrenceBetween`, `exists_mem_scan_over`: where a keyword stands in a text, it is found there,
  or an occurrence further left reaches into it.
* `exists_mem_scan_of_infix`: a keyword that stands in a text has an occurrence.
* `MatchMode.has_substring_iff`: matching anywhere finds exactly the keywords that stand in a text.
* `StandsAlone`: a keyword stands in a text, with no letter and no numeral at its sides.
* `MatchMode.standsAlone_of_has`: whole-word matching finds no other keywords.
-/

set_option autoImplicit false

namespace ReportPlan

/-! ## Occurrences in the text -/

/-- The last character that has been passed, behind the character `before`. -/
theorem getLast?_cons_or (c : Char) (u : List Char) (before : Option Char) :
    (c :: u).getLast?.or before = u.getLast?.or (some c) := by
  cases u with
  | nil => rfl
  | cons d u => simp [List.getLast?_cons]

theorem exists_parts_of_mem_scanFrom {needle s : List Char} {skip offset : Nat}
    {before : Option Char} {o : Occurrence} (h : o ∈ scanFrom needle skip offset before s) :
    ∃ u v, s = u ++ needle ++ v ∧
      o.span = ⟨offset + byteLength u, offset + byteLength u + byteLength needle⟩ ∧
      o.before = u.getLast?.or before ∧ o.after = v.head? := by
  induction s generalizing skip offset before with
  | nil =>
    rw [scanFrom] at h
    split at h
    · rename_i hnil
      have hneedle : needle = [] := List.isEmpty_iff.1 hnil
      rw [List.mem_singleton] at h
      subst hneedle h
      exact ⟨[], [], rfl, rfl, rfl, rfl⟩
    · cases h
  | cons c s ih =>
    have hrest : ∀ skip', o ∈ scanFrom needle skip' (offset + c.utf8Size) (some c) s →
        ∃ u v, c :: s = u ++ needle ++ v ∧
          o.span = ⟨offset + byteLength u, offset + byteLength u + byteLength needle⟩ ∧
          o.before = u.getLast?.or before ∧ o.after = v.head? := by
      intro skip' hmem
      obtain ⟨u, v, rfl, hspan, hbefore, hafter⟩ := ih hmem
      refine ⟨c :: u, v, by simp, ?_, ?_, hafter⟩
      · rw [hspan, byteLength_cons, Nat.add_assoc offset]
      · rw [hbefore, getLast?_cons_or]
    cases skip with
    | succ skip =>
      rw [scanFrom] at h
      exact hrest skip h
    | zero =>
      rw [scanFrom] at h
      split at h
      · rename_i hstarts
        obtain ⟨v, hv⟩ := List.isPrefixOf_iff_prefix.1 hstarts
        rcases List.mem_cons.1 h with rfl | h
        · refine ⟨[], v, by simp [hv], by simp, by simp, ?_⟩
          show (c :: s)[needle.length]? = v.head?
          rw [← hv, List.getElem?_append_right (Nat.le_refl _), Nat.sub_self,
            List.head?_eq_getElem?]
        · exact hrest _ h
      · exact hrest _ h

/-- An occurrence stands between two parts of the text, at whose length its span begins. -/
theorem exists_parts_of_mem_scan {needle text : List Char} {o : Occurrence}
    (h : o ∈ scan needle text) :
    ∃ u v, text = u ++ needle ++ v ∧
      o.span = ⟨byteLength u, byteLength u + byteLength needle⟩ ∧
      o.before = u.getLast? ∧ o.after = v.head? := by
  obtain ⟨u, v, htext, hspan, hbefore, hafter⟩ := exists_parts_of_mem_scanFrom h
  rw [Nat.zero_add] at hspan
  rw [Option.or_none] at hbefore
  exact ⟨u, v, htext, hspan, hbefore, hafter⟩

/-! ## Keywords that are found -/

/-- The occurrence of a keyword between two parts of a text, before which `offset` bytes and the
character `before` have been passed. -/
def occurrenceBetween (needle : List Char) (offset : Nat) (before : Option Char)
    (u v : List Char) : Occurrence :=
  ⟨⟨offset + byteLength u, offset + byteLength u + byteLength needle⟩, u.getLast?.or before,
    v.head?⟩

section Scan

variable {needle u v : List Char}

theorem occurrenceBetween_cons (c : Char) (offset : Nat) (before : Option Char) :
    occurrenceBetween needle offset before (c :: u) v =
      occurrenceBetween needle (offset + c.utf8Size) (some c) u v := by
  simp only [occurrenceBetween, getLast?_cons_or, byteLength_cons, Nat.add_assoc]

theorem scanFrom_of_isPrefix (hneedle : needle ≠ []) (offset : Nat) (before : Option Char) :
    scanFrom needle 0 offset before (needle ++ v) =
      occurrenceBetween needle offset before [] v ::
        scanFrom needle needle.length offset before (needle ++ v) := by
  obtain ⟨c, rest, rfl⟩ := List.exists_cons_of_ne_nil hneedle
  have hstarts : (c :: rest).isPrefixOf (c :: (rest ++ v)) = true :=
    List.isPrefixOf_iff_prefix.2 ⟨v, rfl⟩
  have hafter : (c :: (rest ++ v))[(c :: rest).length]? = v.head? := by
    rw [List.length_cons, List.getElem?_cons_succ, List.getElem?_append_right (Nat.le_refl _),
      Nat.sub_self, List.head?_eq_getElem?]
  rw [List.cons_append, scanFrom, if_pos hstarts, hafter, List.length_cons, scanFrom]
  rfl

/-- Every occurrence in a text is found, or one that begins further left and reaches into it. -/
theorem exists_mem_scanFrom_over (hneedle : needle ≠ []) {skip : Nat} (hskip : skip ≤ u.length)
    (offset : Nat) (before : Option Char) :
    ∃ u' v', u ++ (needle ++ v) = u' ++ (needle ++ v') ∧
      u'.length ≤ u.length ∧ u.length < u'.length + needle.length ∧
      occurrenceBetween needle offset before u' v' ∈
        scanFrom needle skip offset before (u ++ (needle ++ v)) := by
  have hlength := List.length_pos_iff.2 hneedle
  induction u generalizing skip offset before with
  | nil =>
    obtain rfl : skip = 0 := Nat.le_zero.1 hskip
    rw [List.nil_append, scanFrom_of_isPrefix hneedle]
    exact ⟨[], v, rfl, Nat.le_refl _, by simpa using hlength, List.mem_cons_self⟩
  | cons c u ih =>
    have hrest : ∀ skip' ≤ u.length, ∃ u' v', c :: (u ++ (needle ++ v)) = u' ++ (needle ++ v') ∧
        u'.length ≤ u.length + 1 ∧ u.length + 1 < u'.length + needle.length ∧
        occurrenceBetween needle offset before u' v' ∈
          scanFrom needle skip' (offset + c.utf8Size) (some c) (u ++ (needle ++ v)) := by
      intro skip' hskip'
      obtain ⟨u', v', htext, hle, hlt, hmem⟩ := ih hskip' (offset + c.utf8Size) (some c)
      refine ⟨c :: u', v', congrArg (c :: ·) htext, Nat.succ_le_succ hle, ?_, ?_⟩
      · rw [List.length_cons]
        omega
      · rwa [occurrenceBetween_cons]
    rw [List.length_cons] at hskip ⊢
    cases skip with
    | succ skip =>
      rw [List.cons_append, scanFrom]
      exact hrest skip (by omega)
    | zero =>
      by_cases hstarts : needle <+: c :: (u ++ (needle ++ v))
      · obtain ⟨v', hv'⟩ := hstarts
        rw [List.cons_append, ← hv', scanFrom_of_isPrefix hneedle, hv']
        -- an occurrence that begins here hides those that begin in it
        by_cases hin : u.length + 1 < needle.length
        · exact ⟨[], v', hv'.symm, Nat.zero_le _, by simpa using hin, List.mem_cons_self⟩
        · obtain ⟨n, hn⟩ : ∃ n, needle.length = n + 1 := Nat.exists_eq_add_one.2 hlength
          obtain ⟨u', v', htext, hle, hlt, hmem⟩ := hrest n (by omega)
          refine ⟨u', v', htext, hle, hlt, List.mem_cons_of_mem _ ?_⟩
          rwa [hn, scanFrom]
      · have hnot : ¬needle.isPrefixOf (c :: (u ++ (needle ++ v))) = true :=
          mt List.isPrefixOf_iff_prefix.1 hstarts
        rw [List.cons_append, scanFrom, if_neg hnot]
        exact hrest 0 (Nat.zero_le _)

theorem exists_mem_scan_over (hneedle : needle ≠ []) (u v : List Char) :
    ∃ u' v', u ++ (needle ++ v) = u' ++ (needle ++ v') ∧
      u'.length ≤ u.length ∧ u.length < u'.length + needle.length ∧
      occurrenceBetween needle 0 none u' v' ∈ scan needle (u ++ (needle ++ v)) :=
  exists_mem_scanFrom_over hneedle (Nat.zero_le _) 0 none

end Scan

theorem exists_mem_scan_of_infix {needle text : List Char} (hneedle : needle ≠ [])
    (h : needle <:+: text) : ∃ o, o ∈ scan needle text := by
  obtain ⟨u, v, rfl⟩ := h
  rw [List.append_assoc]
  obtain ⟨u', v', -, -, -, hmem⟩ := exists_mem_scan_over hneedle u v
  exact ⟨_, hmem⟩

/-- A keyword stands in a text, and no letter and no numeral stands directly before or behind. -/
def StandsAlone (keyword text : List Char) : Prop :=
  ∃ u v, text = u ++ keyword ++ v ∧ u.getLast?.any Text.isAlphanumeric = false ∧
    v.head?.any Text.isAlphanumeric = false

namespace MatchMode

variable {mode : MatchMode} {text : List Char} {keyword : String}

theorem contains_iff_exists_mem_scan {needle : List Char} :
    mode.contains text needle = true ↔
      needle ≠ [] ∧ ∃ o ∈ scan needle text, mode.accepts o = true := by
  rw [contains_eq_true_iff]
  simp only [occurrences, List.mem_map, List.mem_filter]
  constructor
  · rintro ⟨hne, _, o, ho, -⟩
    exact ⟨hne, o, ho⟩
  · rintro ⟨hne, o, ho⟩
    exact ⟨hne, _, o, ho, rfl⟩

theorem accepts_wordBoundary_iff {o : Occurrence} :
    wordBoundary.accepts o = true ↔
      o.before.any Text.isAlphanumeric = false ∧ o.after.any Text.isAlphanumeric = false := by
  rw [accepts, Bool.and_eq_true, Bool.not_eq_true', Bool.not_eq_true']

theorem has_eq_true_iff :
    mode.has text keyword = true ↔
      keyword ≠ "" ∧ ∃ o ∈ scan keyword.toList text, mode.accepts o = true := by
  rw [has, contains_iff_exists_mem_scan, ne_eq, String.toList_eq_nil_iff]

theorem infix_of_has (h : mode.has text keyword = true) : keyword.toList <:+: text := by
  obtain ⟨-, o, ho, -⟩ := has_eq_true_iff.1 h
  obtain ⟨u, v, htext, -⟩ := exists_parts_of_mem_scan ho
  exact ⟨u, v, htext.symm⟩

theorem has_substring_iff :
    substring.has text keyword = true ↔ keyword ≠ "" ∧ keyword.toList <:+: text := by
  constructor
  · intro h
    exact ⟨(has_eq_true_iff.1 h).1, infix_of_has h⟩
  · rintro ⟨hne, hinfix⟩
    obtain ⟨o, ho⟩ := exists_mem_scan_of_infix (mt String.toList_eq_nil_iff.1 hne) hinfix
    exact has_eq_true_iff.2 ⟨hne, o, ho, rfl⟩

theorem standsAlone_of_contains {needle : List Char}
    (h : wordBoundary.contains text needle = true) : StandsAlone needle text := by
  obtain ⟨-, o, ho, haccepts⟩ := contains_iff_exists_mem_scan.1 h
  obtain ⟨u, v, htext, -, hbefore, hafter⟩ := exists_parts_of_mem_scan ho
  rw [accepts_wordBoundary_iff, hbefore, hafter] at haccepts
  exact ⟨u, v, htext, haccepts⟩

end MatchMode
end ReportPlan
