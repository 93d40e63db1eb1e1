import ReportPlan.Proofs.Number.Decimal
import ReportPlan.Proofs.Text.Canonical

/-! # Texts of one line

A text stays on one line if no character of it ends a line. Such characters are blanks, so joined
words and numerals have none; a text that is only trimmed may still have them between its words.

* `isLineBreak`: the characters that end a line, which are the mandatory breaks of Unicode.
* `IsOneLine`: no character of a text ends a line.
* `isOneLine_append`, `isOneLine_intercalate`: a joined text, by its parts.
* `isOneLine_of_isCanonical`: a text with no blanks but spaces.
-/

set_option autoImplicit false

namespace ReportPlan

namespace Text

/-- Line feed, line tabulation, form feed, carriage return, next line, and the separators of lines
and of paragraphs. -/
def lineBreakRanges : List (Nat × Nat) :=
  [(0xA, 0xD), (0x85, 0x85), (0x2028, 0x2029)]

def isLineBreak (c : Char) : Bool :=
  inRanges lineBreakRanges c

theorem isBlank_of_isLineBreak {c : Char} (h : isLineBreak c = true) : isBlank c = true :=
  inRanges_of_within (by decide) h

theorem isLineBreak_of_nonblank {c : Char} (h : isBlank c = false) : isLineBreak c = false := by
  rw [← Bool.not_eq_true]
  intro hbreak
  rw [isBlank_of_isLineBreak hbreak] at h
  cases h

theorem isLineBreak_of_isPlainDigit {c : Char} (h : isPlainDigit c = true) :
    isLineBreak c = false :=
  isLineBreak_of_nonblank (isBlank_of_isPlainDigit h)

end Text

open Text (isLineBreak)

/-- No character of a text ends a line. -/
def IsOneLine (s : String) : Prop :=
  ∀ ch ∈ s.toList, isLineBreak ch = false

instance (s : String) : Decidable (IsOneLine s) :=
  List.decidableBAll (fun ch => isLineBreak ch = false) s.toList

theorem isOneLine_ofList {s : List Char} :
    IsOneLine (String.ofList s) ↔ ∀ ch ∈ s, isLineBreak ch = false := by
  rw [IsOneLine, String.toList_ofList]

@[simp] theorem isOneLine_append {s t : String} :
    IsOneLine (s ++ t) ↔ IsOneLine s ∧ IsOneLine t := by
  simp only [IsOneLine, String.toList_append, List.forall_mem_append]

/-- The separator counts between two parts only, so it is asked to be one line in itself. -/
theorem isOneLine_intercalate {sep : String} (hsep : IsOneLine sep) {parts : List String} :
    IsOneLine (sep.intercalate parts) ↔ ∀ part ∈ parts, IsOneLine part := by
  induction parts with
  | nil => simp [IsOneLine]
  | cons part parts ih =>
    cases parts with
    | nil => simp
    | cons next parts =>
      rw [String.intercalate_cons_cons, isOneLine_append, isOneLine_append, ih,
        and_iff_left hsep]
      exact List.forall_mem_cons.symm

theorem isOneLine_of_isCanonical {s : List Char} (h : Text.IsCanonical s) :
    IsOneLine (String.ofList s) := by
  refine isOneLine_ofList.2 fun ch hch => ?_
  rw [← Bool.not_eq_true]
  intro hbreak
  -- a blank would be a space, and a space ends no line
  rw [h.spaces ch hch (Text.isBlank_of_isLineBreak hbreak)] at hbreak
  cases hbreak

theorem isOneLine_titleCase (s : String) : IsOneLine s.titleCase :=
  isOneLine_of_isCanonical (Text.isCanonical_titleCase s.toList)

end ReportPlan
