import ReportPlan.Proofs.Lists
import ReportPlan.Text.Phrase

/-! # Texts that are not blank

Changing the letter case of a character never makes it blank, so a text keeps a character that is
not blank when it is normalized, written in title case or trimmed.

* `Shift.avoidsBlanks`: a run of letter case does not lead to a blank; every run of the tables does
  so.
* `isBlank_lowerChar`, `isBlank_upperChar`: the case of a character that is not blank.
* `String.isBlankText_normalize`, `String.isBlankText_titleCase`, `String.isBlankText_trimBlanks`:
  the same for texts.
-/

set_option autoImplicit false

namespace ReportPlan.Text

/-! ## Letter case of one character -/

/-- Whether the other cases of a run of code points lie clear of every range of blanks. -/
def Shift.avoidsBlanks (s : Shift) : Bool :=
  blankRanges.all fun r =>
    decide ((r.2 : Int) < s.first + s.delta) || decide ((s.last : Int) + s.delta < r.1)

theorem lowerShifts_avoidBlanks : lowerShifts.all Shift.avoidsBlanks = true := by decide

theorem upperShifts_avoidBlanks : upperShifts.all Shift.avoidsBlanks = true := by decide

theorem upperExpansions_avoidBlanks :
    (upperExpansions.all fun e =>
      !e.2.isEmpty && e.2.all fun n => !isBlank (Char.ofNat n)) = true := by decide

/-- The blanks are the characters whose code point lies in one of the ranges. -/
theorem exists_blankRange {c : Char} (h : isBlank c = true) :
    ∃ r ∈ blankRanges, r.1 ≤ c.toNat ∧ c.toNat ≤ r.2 :=
  exists_range_of_codeInRanges h

/-- A code point that no range holds is not a blank; a number that is no code point is none
either. -/
theorem isBlank_ofNat {n : Nat} (h : ∀ r ∈ blankRanges, ¬(r.1 ≤ n ∧ n ≤ r.2)) :
    isBlank (Char.ofNat n) = false := by
  rw [← Bool.not_eq_true]
  intro hblank
  by_cases hn : n.isValidChar
  · have hchar : Char.ofNat n = Char.ofNatAux n hn := dif_pos hn
    have hcode : (Char.ofNat n).toNat = n := by
      rw [hchar]
      rfl
    obtain ⟨r, hr, hle⟩ := exists_blankRange hblank
    rw [hcode] at hle
    exact h r hr hle
  · rw [Char.ofNat, dif_neg hn] at hblank
    exact absurd hblank (by decide)

theorem isBlank_of_shifted? {shifts : List Shift} (hshifts : shifts.all Shift.avoidsBlanks = true)
    {n m : Nat} (h : shifted? shifts n = some m) : isBlank (Char.ofNat m) = false := by
  unfold shifted? at h
  obtain ⟨s, hs, rfl⟩ := Option.map_eq_some_iff.1 h
  have hrun : s.holds n = true := List.find?_some (p := fun x : Shift => x.holds n) hs
  have havoid : s.avoidsBlanks = true :=
    List.all_eq_true.1 hshifts s (List.mem_of_find?_eq_some hs)
  simp only [Shift.holds, Bool.and_eq_true, decide_eq_true_eq] at hrun
  refine isBlank_ofNat fun r hr hle => ?_
  have hclear := List.all_eq_true.1 havoid r hr
  simp only [Bool.or_eq_true, decide_eq_true_eq] at hclear
  have hfirst : 0 < r.1 := by
    have hpos : ∀ r ∈ blankRanges, 0 < r.1 := by decide
    exact hpos r hr
  omega

theorem isBlank_lowerChar {c d : Char} (hc : isBlank c = false) (hd : d ∈ lowerChar c) :
    isBlank d = false := by
  unfold lowerChar at hd
  split at hd
  · simp only [List.mem_cons, List.not_mem_nil, or_false] at hd
    rcases hd with rfl | rfl <;> decide
  · rw [List.mem_singleton] at hd
    subst hd
    cases hshift : shifted? lowerShifts c.toNat with
    | none => simpa using hc
    | some m => simpa using isBlank_of_shifted? lowerShifts_avoidBlanks hshift

theorem isBlank_upperChar {c d : Char} (hc : isBlank c = false) (hd : d ∈ upperChar c) :
    isBlank d = false := by
  unfold upperChar at hd
  split at hd
  · rename_i codes hcodes
    obtain ⟨n, hn, rfl⟩ := List.mem_map.1 hd
    obtain ⟨l₁, l₂, hsplit, -⟩ := List.lookup_eq_some_iff.1 hcodes
    have hmem : (c.toNat, codes) ∈ upperExpansions := by rw [hsplit]; simp
    have havoid := List.all_eq_true.1 upperExpansions_avoidBlanks _ hmem
    simp only [Bool.and_eq_true, List.all_eq_true, Bool.not_eq_true'] at havoid
    exact havoid.2 n hn
  · rw [List.mem_singleton] at hd
    subst hd
    cases hshift : shifted? upperShifts c.toNat with
    | none => simpa using hc
    | some m => simpa using isBlank_of_shifted? upperShifts_avoidBlanks hshift

theorem lowerChar_ne_nil (c : Char) : lowerChar c ≠ [] := by
  unfold lowerChar
  split <;> simp

theorem upperChar_ne_nil (c : Char) : upperChar c ≠ [] := by
  unfold upperChar
  split
  · rename_i codes hcodes
    obtain ⟨l₁, l₂, hsplit, -⟩ := List.lookup_eq_some_iff.1 hcodes
    have hmem : (c.toNat, codes) ∈ upperExpansions := by rw [hsplit]; simp
    have havoid := List.all_eq_true.1 upperExpansions_avoidBlanks _ hmem
    simp only [Bool.and_eq_true, Bool.not_eq_true', List.isEmpty_eq_false_iff] at havoid
    simpa using havoid.1
  · simp

/-! ## Texts -/

theorem isBlankText_eq_false_iff {s : List Char} :
    isBlankText s = false ↔ ∃ c ∈ s, isBlank c = false := by
  simp [isBlankText]

theorem isBlank_lowercaseAfter {before s : List Char} (h : ∀ c ∈ s, isBlank c = false) {d : Char}
    (hd : d ∈ lowercaseAfter before s) : isBlank d = false := by
  induction s generalizing before with
  | nil => cases hd
  | cons c rest ih =>
    rw [lowercaseAfter, List.mem_append] at hd
    rcases hd with hd | hd
    · split at hd
      · rw [List.mem_singleton] at hd
        rw [hd, lowerSigma]
        split <;> decide
      · exact isBlank_lowerChar (h c (by simp)) hd
    · exact ih (fun c hc => h c (List.mem_cons_of_mem _ hc)) hd

/-- A character that is not blank stays one in lower case. -/
theorem isBlankText_lowercaseAfter {before s : List Char} (h : isBlankText s = false) :
    isBlankText (lowercaseAfter before s) = false := by
  induction s generalizing before with
  | nil => cases h
  | cons c rest ih =>
    rw [isBlankText_eq_false_iff] at h ⊢
    obtain ⟨d, hd, hblank⟩ := h
    rw [lowercaseAfter]
    rcases List.mem_cons.1 hd with rfl | hd
    · split
      · refine ⟨lowerSigma before rest, by simp, ?_⟩
        rw [lowerSigma]
        split <;> decide
      · obtain ⟨e, he⟩ := List.exists_mem_of_ne_nil _ (lowerChar_ne_nil d)
        exact ⟨e, List.mem_append_left _ he, isBlank_lowerChar hblank he⟩
    · have hrest : isBlankText (lowercaseAfter (c :: before) rest) = false :=
        ih (isBlankText_eq_false_iff.2 ⟨d, hd, hblank⟩)
      obtain ⟨e, he, hblank⟩ := isBlankText_eq_false_iff.1 hrest
      exact ⟨e, List.mem_append_right _ he, hblank⟩

theorem capitalize_ne_nil {s : List Char} (hne : s ≠ []) : capitalize s ≠ [] := by
  obtain ⟨c, rest, rfl⟩ := List.exists_cons_of_ne_nil hne
  exact List.append_ne_nil_of_left_ne_nil (upperChar_ne_nil c) rest

theorem isBlank_capitalize {s : List Char} (h : ∀ c ∈ s, isBlank c = false) {d : Char}
    (hd : d ∈ capitalize s) : isBlank d = false := by
  cases s with
  | nil => cases hd
  | cons c rest =>
    rcases List.mem_append.1 hd with hd | hd
    · exact isBlank_upperChar (h c List.mem_cons_self) hd
    · exact h d (List.mem_cons_of_mem _ hd)

theorem isBlankText_capitalize {s : List Char} (hne : s ≠ []) (h : ∀ c ∈ s, isBlank c = false) :
    isBlankText (capitalize s) = false := by
  obtain ⟨d, hd⟩ := List.exists_mem_of_ne_nil _ (capitalize_ne_nil hne)
  exact isBlankText_eq_false_iff.2 ⟨d, hd, isBlank_capitalize h hd⟩

/-- A text has no words exactly if it is blank. -/
theorem wordsAfter_eq_nil_iff {word s : List Char} :
    wordsAfter word s = [] ↔ word = [] ∧ isBlankText s = true := by
  induction s generalizing word with
  | nil => cases word <;> simp [wordsAfter, consWord, isBlankText]
  | cons c rest ih =>
    rw [wordsAfter]
    by_cases hc : isBlank c = true
    · cases word <;> simp [hc, consWord, ih, isBlankText]
    · simp [hc, ih, isBlankText]

theorem words_ne_nil {s : List Char} (h : isBlankText s = false) : words s ≠ [] := by
  intro hnil
  rw [(wordsAfter_eq_nil_iff.1 hnil).2] at h
  cases h

theorem exists_mem_words {s : List Char} (h : isBlankText s = false) : ∃ w, w ∈ words s :=
  List.exists_mem_of_ne_nil _ (words_ne_nil h)

theorem isBlankText_unwords {w : List Char} {ws : List (List Char)} (hw : w ∈ ws)
    (h : isBlankText w = false) : isBlankText (unwords ws) = false := by
  obtain ⟨c, hc, hblank⟩ := isBlankText_eq_false_iff.1 h
  exact isBlankText_eq_false_iff.2 ⟨c, mem_intercalate hw hc, hblank⟩

theorem isBlank_of_mem_words {s w : List Char} (hw : w ∈ words s) : ∀ c ∈ w, isBlank c = false := by
  simpa using (ne_nil_of_mem_words hw).2

theorem isBlankText_of_mem_words {s w : List Char} (hw : w ∈ words s) : isBlankText w = false := by
  obtain ⟨c, hc⟩ := List.exists_mem_of_ne_nil w (ne_nil_of_mem_words hw).1
  exact isBlankText_eq_false_iff.2 ⟨c, hc, isBlank_of_mem_words hw c hc⟩

theorem isBlankText_normalize {s : List Char} (h : isBlankText s = false) :
    isBlankText (normalize s) = false := by
  obtain ⟨w, hw⟩ := exists_mem_words h
  exact isBlankText_lowercaseAfter (isBlankText_unwords hw (isBlankText_of_mem_words hw))

theorem isBlankText_titleCase {s : List Char} (h : isBlankText s = false) :
    isBlankText (titleCase s) = false := by
  obtain ⟨w, hw⟩ := exists_mem_words h
  have hlower : isBlankText (lowercase w) = false :=
    isBlankText_lowercaseAfter (isBlankText_of_mem_words hw)
  have hne : lowercase w ≠ [] := by
    intro hnil
    rw [hnil] at hlower
    cases hlower
  refine isBlankText_unwords (List.mem_map.2 ⟨w, hw, rfl⟩) (isBlankText_capitalize hne fun c hc => ?_)
  exact isBlank_lowercaseAfter (isBlank_of_mem_words hw) hc

theorem isBlankText_dropWhile {s : List Char} : isBlankText (s.dropWhile isBlank) = isBlankText s := by
  have h := List.any_dropWhile (p := isBlank) (l := s)
  rw [List.any_eq_not_all_not] at h
  simpa [isBlankText] using h

theorem isBlankText_reverse (s : List Char) : isBlankText s.reverse = isBlankText s := by
  simp [isBlankText]

/-- Trimming takes away nothing but blanks. -/
theorem isBlankText_trim (s : List Char) : isBlankText (trim s) = isBlankText s := by
  rw [trim, isBlankText_reverse, trimStart, isBlankText_dropWhile, isBlankText_reverse, trimStart,
    isBlankText_dropWhile]

end ReportPlan.Text

namespace String

open ReportPlan

theorem isBlankText_normalize {s : String} (h : s.isBlankText = false) :
    s.normalize.isBlankText = false := by
  simpa [isBlankText, normalize] using Text.isBlankText_normalize h

theorem isBlankText_titleCase {s : String} (h : s.isBlankText = false) :
    s.titleCase.isBlankText = false := by
  simpa [isBlankText, titleCase] using Text.isBlankText_titleCase h

theorem isBlankText_trimBlanks (s : String) : s.trimBlanks.isBlankText = s.isBlankText := by
  simp [isBlankText, trimBlanks, Text.isBlankText_trim]

/-- A joined text is not blank if one of its parts is not. -/
theorem isBlankText_intercalate {s sep : String} {parts : List String} (hs : s ∈ parts)
    (h : s.isBlankText = false) : (sep.intercalate parts).isBlankText = false := by
  obtain ⟨c, hc, hblank⟩ := Text.isBlankText_eq_false_iff.1 h
  refine Text.isBlankText_eq_false_iff.2 ⟨c, ?_, hblank⟩
  rw [toList_intercalate]
  exact mem_intercalate (List.mem_map.2 ⟨s, hs, rfl⟩) hc

end String
