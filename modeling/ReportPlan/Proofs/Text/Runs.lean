import ReportPlan.Text.Blank
import ReportPlan.Text.Digit
import ReportPlan.Text.Word

/-! # Runs of characters of a class

* `inRanges_eq_false_of_apart`: classes given by ranges that lie apart have no common character.
* `inRanges_of_within`: a class whose ranges lie in those of another one is part of it.
* `isBlank_of_isDigit`, `isDigit_of_isBlank`: no digit is blank, so that blanks and digits end each
  other's runs.
* `isWordChar_of_isDigit`: every digit is part of a word, so that no word ends between two digits.
* `getLast?_any_append_iff`: the last character of two texts, one behind the other.
* `exists_split_of_mem_tail_takeWhile`: what stands before a later character of a run.
* `run_append_inj`: a run that the class does not continue is found again in a text.
-/

set_option autoImplicit false

namespace ReportPlan.Text

/-- Whether each of some ranges lies clear of each of some others. -/
def rangesApart (ranges others : List (Nat × Nat)) : Bool :=
  ranges.all fun r => others.all fun o => decide (r.2 < o.1) || decide (o.2 < r.1)

theorem inRanges_eq_false_of_apart {ranges others : List (Nat × Nat)} {c : Char}
    (hapart : rangesApart ranges others = true) (hc : inRanges ranges c = true) :
    inRanges others c = false := by
  rw [← Bool.not_eq_true]
  intro hother
  obtain ⟨r, hr, hrange⟩ := exists_range_of_codeInRanges hc
  obtain ⟨o, ho, horange⟩ := exists_range_of_codeInRanges hother
  have hclear := List.all_eq_true.1 (List.all_eq_true.1 hapart r hr) o ho
  simp only [Bool.or_eq_true, decide_eq_true_eq] at hclear
  omega

/-- Whether the code points from one to another all lie in one of some ranges. -/
def rangeWithin (first last : Nat) : List (Nat × Nat) → Bool
  | [] => false
  | (low, high) :: rest =>
    decide (low ≤ first) &&
      (decide (last ≤ high) || decide (high < first) && rangeWithin first last rest)

theorem codeInRanges_of_within {ranges : List (Nat × Nat)} {first last n : Nat}
    (hwithin : rangeWithin first last ranges = true) (hn : first ≤ n ∧ n ≤ last) :
    codeInRanges n ranges = true := by
  induction ranges with
  | nil => cases hwithin
  | cons r rest ih =>
    obtain ⟨low, high⟩ := r
    simp only [rangeWithin, Bool.and_eq_true, Bool.or_eq_true, decide_eq_true_eq] at hwithin
    obtain ⟨hlow, hhigh | ⟨hbeyond, hrest⟩⟩ := hwithin
    · rw [codeInRanges, if_neg (by omega), if_pos (by omega)]
    · rw [codeInRanges, if_neg (by omega), if_neg (by omega)]
      exact ih hrest

theorem inRanges_of_within {ranges others : List (Nat × Nat)} {c : Char}
    (hwithin : (ranges.all fun r => rangeWithin r.1 r.2 others) = true)
    (hc : inRanges ranges c = true) : inRanges others c = true := by
  obtain ⟨r, hr, hrange⟩ := exists_range_of_codeInRanges hc
  exact codeInRanges_of_within (List.all_eq_true.1 hwithin r hr) hrange

theorem isWordChar_of_isDigit {c : Char} (hc : isDigit c = true) : isWordChar c = true := by
  rw [isDigit, Bool.and_eq_true] at hc
  have hmark : inRanges wordMarkRanges c = true :=
    inRanges_of_within (by decide +kernel) hc.1
  rw [isWordChar, hmark, Bool.or_true, Bool.true_and]
  exact hc.2

theorem isBlank_of_isDigit {c : Char} (hc : isDigit c = true) : isBlank c = false := by
  rw [isDigit, Bool.and_eq_true] at hc
  exact inRanges_eq_false_of_apart (by decide) hc.1

theorem isDigit_of_isBlank {c : Char} (hc : isBlank c = true) : isDigit c = false := by
  rw [← Bool.not_eq_true]
  intro hdigit
  rw [isBlank_of_isDigit hdigit] at hc
  cases hc

theorem head?_any_isBlank_digits {digits rest : List Char}
    (h : digits ≠ [] ∧ ∀ c ∈ digits, isDigit c = true) :
    (digits ++ rest).head?.any isBlank = false := by
  obtain ⟨c, digits, rfl⟩ := List.exists_cons_of_ne_nil h.1
  exact isBlank_of_isDigit (h.2 c List.mem_cons_self)

theorem head?_any_isDigit_blanks {blanks rest : List Char}
    (h : blanks ≠ [] ∧ ∀ c ∈ blanks, isBlank c = true) :
    (blanks ++ rest).head?.any isDigit = false := by
  obtain ⟨c, blanks, rfl⟩ := List.exists_cons_of_ne_nil h.1
  exact isDigit_of_isBlank (h.2 c List.mem_cons_self)

theorem head?_any_append_left {p : Char → Bool} {s t : List Char}
    (h : (s ++ t).head?.any p = false) : s.head?.any p = false := by
  cases s with
  | nil => rfl
  | cons c s => exact h

theorem getLast?_any_append_iff {p : Char → Bool} {s t : List Char} :
    (s ++ t).getLast?.any p = true ↔
      t.getLast?.any p = true ∨ t = [] ∧ s.getLast?.any p = true := by
  cases hlast : t.getLast? with
  | none =>
    obtain rfl := List.getLast?_eq_none_iff.1 hlast
    simp
  | some c =>
    have hne : t ≠ [] := by
      rintro rfl
      cases hlast
    simp [List.getLast?_append, hlast, hne]

theorem getLast?_any_of_forall {p : Char → Bool} {s : List Char} (hs : ∀ c ∈ s, p c = false) :
    s.getLast?.any p = false := by
  rw [← Bool.not_eq_true, Option.any_eq_true]
  rintro ⟨c, hc, htrue⟩
  rw [hs c (List.mem_of_getLast? hc)] at htrue
  cases htrue

theorem getLast?_any_isDigit_blanks {s : List Char} (hs : ∀ c ∈ s, isBlank c = true) :
    s.getLast?.any isDigit = false :=
  getLast?_any_of_forall fun c hc => isDigit_of_isBlank (hs c hc)

theorem exists_split_of_mem_tail_takeWhile {isMember : Char → Bool} {s : List Char} {d : Char}
    (hd : d ∈ (s.takeWhile isMember).tail) :
    ∃ x y, s = x ++ d :: y ∧ x ≠ [] ∧ ∀ c ∈ x, isMember c = true := by
  obtain ⟨u, v, htail⟩ := List.append_of_mem hd
  cases hrun : s.takeWhile isMember with
  | nil =>
    rw [hrun] at hd
    cases hd
  | cons c run =>
    rw [hrun, List.tail_cons] at htail
    have hsplit : s = (c :: u) ++ d :: (v ++ s.dropWhile isMember) := by
      have h := List.takeWhile_append_dropWhile (p := isMember) (l := s)
      rw [hrun, htail] at h
      simpa using h.symm
    refine ⟨c :: u, v ++ s.dropWhile isMember, hsplit, List.cons_ne_nil c u, fun e he => ?_⟩
    have hmem : e ∈ s.takeWhile isMember := by
      rw [hrun, htail]
      exact List.mem_append_left (d :: v) he
    exact List.all_eq_true.1 List.all_takeWhile e hmem

/-- Two ways to divide a text behind a run that the class does not continue are the same. -/
theorem run_append_inj {isMember : Char → Bool} {u v s t : List Char}
    (hu : ∀ c ∈ u, isMember c = true) (hv : ∀ c ∈ v, isMember c = true)
    (hs : s.head?.any isMember = false) (ht : t.head?.any isMember = false)
    (h : u ++ s = v ++ t) : u = v ∧ s = t := by
  induction u generalizing v with
  | nil =>
    cases v with
    | nil => exact ⟨rfl, h⟩
    | cons d v =>
      rw [List.nil_append] at h
      rw [h, List.cons_append, List.head?_cons, Option.any_some, hv d List.mem_cons_self] at hs
      cases hs
  | cons c u ih =>
    cases v with
    | nil =>
      rw [List.nil_append] at h
      rw [← h, List.cons_append, List.head?_cons, Option.any_some, hu c List.mem_cons_self] at ht
      cases ht
    | cons d v =>
      obtain ⟨rfl, hrest⟩ := List.cons.inj h
      obtain ⟨rfl, hst⟩ := ih (fun e he => hu e (List.mem_cons_of_mem _ he))
        (fun e he => hv e (List.mem_cons_of_mem _ he)) hrest
      exact ⟨rfl, hst⟩

end ReportPlan.Text
