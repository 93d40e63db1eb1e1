import ReportPlan.Proofs.Number.Rounding
import ReportPlan.Proofs.Pattern.Spelling
import ReportPlan.Threshold

/-! # Words behind numerals

An amount of money is multiplied by what the word behind its numeral stands for. This is the whole
next word: one that only begins like a word for a magnitude leaves the number as it is.

* `nextWord`: the word that comes next in a text; `magnitudeFactor`: what it stands for.
* `exists_run_magnitude`: the next word is captured exactly if it is one for a magnitude.
* `Metric.suffix?`, `Metric.factor`: what is captured behind the numeral of a metric, and the factor
  that it stands for.
* `value?_suffix?`: the value of a numeral with what is captured behind it.
-/

set_option autoImplicit false

namespace ReportPlan

open Pattern Text

namespace Threshold

/-! ## Words for magnitudes -/

/-- The word that comes next, behind blanks if there are any. -/
def nextWord (s : List Char) : String :=
  String.ofList ((s.dropWhile isBlank).takeWhile isWordChar)

/-- What a number is multiplied by in front of a word. -/
def magnitudeFactor (w : String) : Nat :=
  if w ∈ ["b", "bn", "billion"] then 1000000000
  else if w ∈ ["m", "mn", "million"] then 1000000
  else if w ∈ ["k", "thousand"] then 1000
  else 1

def magnitudeWords : List String :=
  ["billion", "bn", "b", "million", "mn", "m", "thousand", "k"]

theorem magnitudeFactor_of_not_mem {w : String} (h : w ∉ magnitudeWords) :
    magnitudeFactor w = 1 := by
  simp only [magnitudeWords, List.mem_cons, List.not_mem_nil, not_or, not_false_eq_true] at h
  simp [magnitudeFactor, h]

theorem multiplier_of_not_mem {w : String} (h : w ∉ magnitudeWords) : multiplier (some w) = 1 := by
  simp only [magnitudeWords, List.mem_cons, List.not_mem_nil, not_or, not_false_eq_true] at h
  unfold multiplier
  split <;> simp_all

theorem multiplier_some (w : String) : multiplier (some w) = magnitudeFactor w := by
  by_cases h : w ∈ magnitudeWords
  · have hall : ∀ w ∈ magnitudeWords, multiplier (some w) = magnitudeFactor w := by decide
    exact hall w h
  · rw [multiplier_of_not_mem h, magnitudeFactor_of_not_mem h]

/-- A word that only begins like one for a magnitude. -/
example : multiplier (some (nextWord " kyc checks".toList)) = 1 := by
  rw [multiplier_some]
  decide

/-- A word for a magnitude is made of characters of words, and does not begin with a blank. -/
theorem magnitudeWords_shape : ∀ w ∈ magnitudeWords, ∃ c rest, w.toList = c :: rest ∧
    isBlank c = false ∧ ∀ e ∈ w.toList, isWordChar e = true := by
  have hall : ∀ w ∈ magnitudeWords, w.toList ≠ [] ∧ w.toList.head?.any isBlank = false ∧
      w.toList.all isWordChar = true := by decide +kernel
  intro w hw
  obtain ⟨hne, hhead, hword⟩ := hall w hw
  obtain ⟨c, rest, hcons⟩ := List.exists_cons_of_ne_nil hne
  refine ⟨c, rest, hcons, ?_, List.all_eq_true.1 hword⟩
  simpa [hcons] using hhead

theorem nextWord_append {gap : List Char} {w : String} {rest : List Char} (hw : w ∈ magnitudeWords)
    (hgap : ∀ c ∈ gap, isBlank c = true) (hrest : rest.head?.any isWordChar = false) :
    nextWord (gap ++ (w.toList ++ rest)) = w := by
  obtain ⟨c, tail, hcons, hblank, hword⟩ := magnitudeWords_shape w hw
  have hstop : (w.toList ++ rest).dropWhile isBlank = w.toList ++ rest := by
    rw [hcons, List.cons_append, List.dropWhile_cons_of_neg (by simp [hblank])]
  have hend : rest.takeWhile isWordChar = [] := by
    cases rest with
    | nil => rfl
    | cons e rest => exact List.takeWhile_cons_of_neg (by simpa using hrest)
  rw [nextWord, List.dropWhile_append_of_pos hgap, hstop, List.takeWhile_append_of_pos hword, hend,
    List.append_nil, String.ofList_toList]

theorem exists_of_nextWord (s : List Char) :
    ∃ gap rest, s = gap ++ ((nextWord s).toList ++ rest) ∧ (∀ c ∈ gap, isBlank c = true) ∧
      rest.head?.any isWordChar = false := by
  refine ⟨s.takeWhile isBlank, (s.dropWhile isBlank).dropWhile isWordChar, ?_,
    List.all_eq_true.1 List.all_takeWhile, head?_any_dropWhile isWordChar _⟩
  rw [nextWord, String.toList_ofList, List.takeWhile_append_dropWhile,
    List.takeWhile_append_dropWhile]

/-! ## The magnitude behind a numeral -/

/-- Blanks and a captured word for a magnitude, which ends there. -/
def suffix : Pattern Part :=
  blanks ++ capture Part.suffix (oneOfWords magnitudeWords) ++ edge

theorem magnitude_eq : magnitude = maybe suffix := rfl

section Suffix

variable {before rest : List Char} {earlier captures : Captures Part}

theorem atEdge_iff {w : String} (hw : w ∈ magnitudeWords) :
    (Cursor.mk (w.toList.reverse ++ before) rest).atEdge = true ↔
      rest.head?.any isWordChar = false := by
  obtain ⟨c, tail, hcons, -, hword⟩ := magnitudeWords_shape w hw
  have hne : w.toList.reverse ≠ [] := by simp [hcons]
  obtain ⟨last, init, hlast⟩ := List.exists_cons_of_ne_nil hne
  have hmem : last ∈ w.toList := List.mem_reverse.1 (by rw [hlast]; exact List.mem_cons_self)
  refine Cursor.atEdge_after_iff ?_
  rw [hlast]
  exact hword last hmem

theorem spells_suffix {word : List Char} :
    suffix.Spells before word rest earlier captures ↔
      ∃ gap : List Char, ∃ w ∈ magnitudeWords, word = gap ++ w.toList ∧
        (∀ c ∈ gap, isBlank c = true) ∧ rest.head?.any isWordChar = false ∧
        captures = (.suffix, ⟨(gap.reverse ++ before).length, w.toList⟩) :: earlier := by
  simp only [suffix, blanks, spells_append_assoc, spells_many_append, spells_capture_append,
    spells_oneOfWords, spells_edge]
  constructor
  · rintro ⟨gap, _, rfl, hgap, _, _, _, rfl, ⟨⟨w, hw, rfl⟩, rfl⟩, rfl, hedge, rfl⟩
    exact ⟨gap, w, hw, by rw [List.append_nil], hgap, (atEdge_iff hw).1 hedge, rfl⟩
  · rintro ⟨gap, w, hw, rfl, hgap, hrest, rfl⟩
    exact ⟨gap, w.toList, rfl, hgap, w.toList, [], earlier, (List.append_nil _).symm,
      ⟨⟨w, hw, rfl⟩, rfl⟩, rfl, (atEdge_iff hw).2 hrest, rfl⟩

variable {α : Type} {k : Cursor → Captures Part → Option α}

/-- If nothing behind it can fail, the next word is captured exactly if it is one for a
magnitude. -/
theorem exists_run_magnitude (htotal : ∀ cursor captures, (k cursor captures).isSome = true) :
    ∃ cursor captures, magnitude.run ⟨before, rest⟩ earlier k = k cursor captures ∧
      ((nextWord rest ∈ magnitudeWords ∧
          ∃ start, captures = (.suffix, ⟨start, (nextWord rest).toList⟩) :: earlier) ∨
        nextWord rest ∉ magnitudeWords ∧ captures = earlier) := by
  rw [magnitude_eq]
  cases hrun : suffix.run ⟨before, rest⟩ earlier k with
  | some a =>
    obtain ⟨word, after, captures, rfl, hspelled, hk⟩ := exists_spells_of_run hrun
    obtain ⟨gap, w, hw, rfl, hgap, hafter, rfl⟩ := spells_suffix.1 hspelled
    have hnext : nextWord (gap ++ w.toList ++ after) = w := by
      rw [List.append_assoc]
      exact nextWord_append hw hgap hafter
    rw [hnext]
    exact ⟨_, _, (run_maybe_of_some hrun).trans hk.symm, .inl ⟨hw, _, rfl⟩⟩
  | none =>
    -- a next word that is one for a magnitude would be spelled, and nothing behind it can fail
    refine ⟨_, _, run_maybe_of_none hrun, .inr ⟨fun hw => ?_, rfl⟩⟩
    obtain ⟨gap, after, hsplit, hgap, hafter⟩ := exists_of_nextWord rest
    have hspelled : suffix.Spells before (gap ++ (nextWord rest).toList) after earlier _ :=
      spells_suffix.2 ⟨gap, nextWord rest, hw, rfl, hgap, hafter, rfl⟩
    have hsome : (suffix.run ⟨before, gap ++ (nextWord rest).toList ++ after⟩ earlier k).isSome =
        true := isSome_run_of_spells hspelled (htotal _ _)
    rw [List.append_assoc, ← hsplit, hrun] at hsome
    cases hsome

end Suffix

end Threshold

/-! ## The factor of a metric -/

open Threshold

namespace Metric

/-- The next word, if it is one for a magnitude of money. -/
def suffix? (metric : Metric) (rest : List Char) : Option String :=
  if metric.isScaled = true ∧ nextWord rest ∈ magnitudeWords then some (nextWord rest) else none

/-- What a number is multiplied by in front of a text. -/
def factor (metric : Metric) (rest : List Char) : Nat :=
  if metric.isScaled then magnitudeFactor (nextWord rest) else 1

theorem multiplier_suffix? {metric : Metric} {rest : List Char} (h : metric.isScaled = true) :
    multiplier (metric.suffix? rest) = magnitudeFactor (nextWord rest) := by
  rw [suffix?]
  split
  · exact multiplier_some _
  · rename_i hnext
    exact (magnitudeFactor_of_not_mem fun hmem => hnext ⟨h, hmem⟩).symm

end Metric

theorem value?_suffix? (metric : Metric) (numeral rest : List Char) :
    value? metric numeral (metric.suffix? rest) =
      (numeralValue? numeral).bind fun x =>
        let y := x.mul (.ofNat false (metric.factor rest))
        if y.isFinite then some y else none := by
  rw [value?, Option.bind_eq_bind]
  cases hscaled : metric.isScaled with
  | true => simp only [Metric.multiplier_suffix? hscaled, Metric.factor, hscaled, if_true]
  | false => simp only [Metric.factor, hscaled, Bool.false_eq_true, if_false, Binary64.mul_one]

end ReportPlan
