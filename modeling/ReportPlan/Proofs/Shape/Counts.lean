import ReportPlan.Proofs.Number.Decimal
import ReportPlan.Proofs.Shape.Limit

/-! # Row limits for every numeral

The number behind `top` or `first` is the row limit, whatever the length of its numeral and however
many zeros stand in front of it; zero is no limit, and a number past the greatest limit is none
either. Only the first number behind the word counts: one that is no limit is not made up for by
another further right, or behind the other word.

* `countText`: a text with a numeral behind a word.
* `BeginsCount`: a word, a gap and a digit stand at a place of a text.
* `exists_countAt_iff`: there is a numeral wherever there is its first digit.
* `numeralAfter?_eq_none_iff_not_beginsCount`: no numeral is found where no digit stands.
* `rowLimit?`: the row limit that a number gives.
* `numeralAfter?_countText`: the numeral behind a word that does not stand further left.
* `limitIn_countText`: the row limit, for every numeral and every text around it.
-/

set_option autoImplicit false

namespace ReportPlan

open Pattern Text

/-- A text with a numeral behind a word. -/
def countText (front : List Char) (s : String) (numeral rest : List Char) : List Char :=
  front ++ s.toList ++ " ".toList ++ numeral ++ rest

/-- Behind the characters `before`, a text has a word, a gap and a digit. -/
def BeginsCount (s : String) (text before : List Char) : Prop :=
  ∃ gap after c, text = before ++ (s.toList ++ (gap ++ c :: after)) ∧
    (gap ≠ [] ∧ ∀ b ∈ gap, isBlank b = true) ∧ isDigit c = true

/-- The row limit that a number gives. -/
def rowLimit? (n : Nat) : Option Nat :=
  if 0 < n ∧ n ≤ greatestLimit then some n else none

/-! ## Numerals behind a word -/

theorem exists_countAt_iff {s : String} {text before : List Char} :
    (∃ numeral, CountAt s text before numeral) ↔ BeginsCount s text before := by
  constructor
  · rintro ⟨numeral, gap, after, htext, hgap, hnumeral, -⟩
    obtain ⟨c, digits, rfl⟩ := List.exists_cons_of_ne_nil hnumeral.1
    exact ⟨gap, digits ++ after, c, htext, hgap, hnumeral.2 c List.mem_cons_self⟩
  · rintro ⟨gap, after, c, htext, hgap, hc⟩
    -- the numeral goes on as long as there are digits
    obtain ⟨numeral, rest, hsplit, hnumeral, hrest⟩ := exists_run hc after
    exact ⟨numeral, gap, rest, by rw [htext, hsplit], hgap, hnumeral, hrest⟩

theorem numeralAfter?_eq_none_iff_not_beginsCount {s : String} {text : List Char} :
    numeralAfter? s text = none ↔ ∀ before, ¬BeginsCount s text before := by
  simp only [numeralAfter?_eq_none_iff, ← exists_countAt_iff, not_exists]

theorem countAt_countText {front : List Char} {s : String} {numeral rest : List Char}
    (hnumeral : numeral ≠ [] ∧ AllDigits numeral) (hrest : rest.head?.any isDigit = false) :
    CountAt s (countText front s numeral rest) front numeral :=
  ⟨[' '], rest, by simp [countText],
    ⟨List.cons_ne_nil _ _, List.forall_mem_singleton.2 isBlank_space⟩,
    ⟨hnumeral.1, hnumeral.2.isDigit⟩, hrest⟩

/-- The numeral behind the leftmost word. The word does not have its first letter twice, so none
begins in the front and ends behind it. -/
theorem numeralAfter?_countText {s : String} {c : Char} {letters front numeral rest : List Char}
    (hs : s.toList = c :: letters) (hc : c ∉ letters) (hfront : ¬s.toList <:+: front)
    (hnumeral : numeral ≠ [] ∧ AllDigits numeral) (hrest : rest.head?.any isDigit = false) :
    numeralAfter? s (countText front s numeral rest) = some numeral := by
  refine numeralAfter?_eq_some_iff.2 ⟨front, ?_⟩
  have htext : countText front s numeral rest =
      front ++ c :: (letters ++ (" ".toList ++ (numeral ++ rest))) := by
    simp [countText, hs]
  refine isFirst_of_not_infix hc (hs ▸ hfront) htext (countAt_countText hnumeral hrest) ?_
  rintro before numeral' ⟨gap, after, hsplit, -⟩
  exact ⟨gap ++ (numeral' ++ after), by rw [hsplit, hs]⟩

/-! ## Limits -/

theorem map_limitOfNumeral? {numeral : List Char} (hnumeral : numeral ≠ [] ∧ AllDigits numeral) :
    (limitOfNumeral? numeral).map Fin.val = rowLimit? (decimalValue numeral) := by
  rw [limitOfNumeral?, readNat_eq hnumeral.2 hnumeral.1]
  simp only [Option.bind_eq_bind, Option.bind_some, rowLimit?, Nat.lt_succ_iff]
  split
  · rfl
  · rfl

theorem limitIn_of_top {text numeral : List Char} (htop : numeralAfter? "top" text = some numeral) :
    limitIn text = limitOfNumeral? numeral := by
  rw [limitIn_eq, htop]
  rfl

theorem limitIn_of_first {text numeral : List Char} (htop : ∀ before, ¬BeginsCount "top" text before)
    (hfirst : numeralAfter? "first" text = some numeral) :
    limitIn text = limitOfNumeral? numeral := by
  rw [limitIn_eq, numeralAfter?_eq_none_iff_not_beginsCount.2 htop, hfirst]
  rfl

/-- The row limit is the number behind the first `top`, whatever numbers stand behind `first`; and
without a number behind any `top` it is the one behind the first `first`. -/
theorem limitIn_countText {front numeral rest : List Char}
    (hnumeral : numeral ≠ [] ∧ AllDigits numeral) (hrest : rest.head?.any isDigit = false) :
    (¬"top".toList <:+: front →
      (limitIn (countText front "top" numeral rest)).map Fin.val =
        rowLimit? (decimalValue numeral)) ∧
    (¬"first".toList <:+: front →
      (∀ before, ¬BeginsCount "top" (countText front "first" numeral rest) before) →
      (limitIn (countText front "first" numeral rest)).map Fin.val =
        rowLimit? (decimalValue numeral)) := by
  constructor
  · intro hfront
    have htop := numeralAfter?_countText (c := 't') rfl (by decide) hfront hnumeral hrest
    rw [limitIn_of_top htop, map_limitOfNumeral? hnumeral]
  · intro hfront hnone
    have hfirst := numeralAfter?_countText (c := 'f') rfl (by decide) hfront hnumeral hrest
    rw [limitIn_of_first hnone hfirst, map_limitOfNumeral? hnumeral]

/-- The greatest limit with zeros in front of it, between numbers behind `first`; one more than it,
with a number behind another `top`; and a number behind `first` with a `top` that has none. -/
theorem limitIn_countText_greatest :
    (limitIn (countText "first 7, ".toList "top" "004294967295".toList ", first 8".toList)).map
      Fin.val = some 4294967295 ∧
    limitIn (countText "on ".toList "top" "4294967296".toList ", or top 3, or first 2".toList) =
      none ∧
    (limitIn (countText [] "first" "0020".toList " trades on top of 5 desks".toList)).map
      Fin.val = some 20 := by
  have hgreatest : AllDigits "004294967295".toList := List.all_eq_true.1 (by decide)
  have hpast : AllDigits "4294967296".toList := List.all_eq_true.1 (by decide)
  have htwenty : AllDigits "0020".toList := List.all_eq_true.1 (by decide)
  have hnone : numeralAfter? "top"
      (countText [] "first" "0020".toList " trades on top of 5 desks".toList) = none := by
    decide +kernel
  have hlimit := (@limitIn_countText "first 7, ".toList _ ", first 8".toList
    ⟨by decide, hgreatest⟩ (by decide)).1 (by decide +kernel)
  have hnoLimit := (@limitIn_countText "on ".toList _ ", or top 3, or first 2".toList
    ⟨by decide, hpast⟩ (by decide)).1 (by decide +kernel)
  have hfirst := (@limitIn_countText [] _ " trades on top of 5 desks".toList
    ⟨by decide, htwenty⟩ (by decide)).2 (by decide)
    (numeralAfter?_eq_none_iff_not_beginsCount.1 hnone)
  refine ⟨hlimit.trans (by decide), ?_, hfirst.trans (by decide)⟩
  exact Option.map_eq_none_iff.1 (hnoLimit.trans (by decide))

end ReportPlan
