import ReportPlan.Proofs.Json.Quoted
import ReportPlan.Proofs.Lists
import ReportPlan.Saved.Uuid

/-! # Identifiers read back

* `Uuid.hexAfter_hexDigits`: the hexadecimal digits of a number give that number.
* `Uuid.groups_flatten`: joined parts are cut apart again by their lengths.
* `Uuid.read?_text`: the hyphenated form of an identifier is read as that identifier.
-/

set_option autoImplicit false

namespace ReportPlan.Uuid

/-! ## Hexadecimal digits -/

theorem length_hexDigits (width n : Nat) : (hexDigits width n).length = width := by
  induction width generalizing n with
  | zero => rfl
  | succ width ih => rw [hexDigits, List.length_append, ih, List.length_singleton]

theorem hexAfter_append (n : Nat) (s t : List Char) :
    hexAfter n (s ++ t) = (hexAfter n s).bind (hexAfter · t) := by
  induction s generalizing n with
  | nil => rfl
  | cons c s ih =>
    rw [List.cons_append, hexAfter, hexAfter]
    cases Json.hexValue? c with
    | none => rfl
    | some d => exact ih _

/-- As many digits as a number needs give it again. -/
theorem hexAfter_hexDigits {width n : Nat} (h : n < Nat.pow 16 width) :
    hexAfter 0 (hexDigits width n) = some n := by
  induction width generalizing n with
  | zero =>
    have hzero : n = 0 := Nat.lt_one_iff.1 h
    rw [hzero]
    rfl
  | succ width ih =>
    have hhigh : n / 16 < Nat.pow 16 width := Nat.div_lt_of_lt_mul (Nat.mul_comm _ 16 ▸ h)
    have hlow := Json.hexValue?_hexDigit (n % 16) (Nat.mod_lt _ (by decide))
    have hsum : 16 * (n / 16) + n % 16 = n := Nat.div_add_mod n 16
    rw [hexDigits, hexAfter_append, ih hhigh, Option.bind_some, hexAfter, hlow, Option.bind_some,
      hsum, hexAfter]

/-! ## Groups -/

theorem groups_flatten (parts : List (List Char)) :
    groups (parts.map List.length) parts.flatten = parts := by
  induction parts with
  | nil => rfl
  | cons part parts ih =>
    rw [List.map_cons, List.flatten_cons, groups, List.take_left, List.drop_left, ih]

theorem flatten_groups {lengths : List Nat} {s : List Char}
    (h : s.length = lengths.foldr (· + ·) 0) :
    (groups lengths s).flatten = s := by
  induction lengths generalizing s with
  | nil => exact (List.eq_nil_of_length_eq_zero h).symm
  | cons n lengths ih =>
    rw [List.foldr_cons] at h
    have hrest : (s.drop n).length = lengths.foldr (· + ·) 0 := by
      rw [List.length_drop]
      omega
    rw [groups, List.flatten_cons, ih hrest, List.take_append_drop]

theorem map_length_groups {lengths : List Nat} {s : List Char}
    (h : lengths.foldr (· + ·) 0 ≤ s.length) :
    (groups lengths s).map List.length = lengths := by
  induction lengths generalizing s with
  | nil => rfl
  | cons n lengths ih =>
    rw [List.foldr_cons] at h
    have hrest : lengths.foldr (· + ·) 0 ≤ (s.drop n).length := by
      rw [List.length_drop]
      omega
    rw [groups, List.map_cons, ih hrest, List.length_take, Nat.min_eq_left (by omega)]

/-! ## The hyphenated form -/

theorem ofHex?_hexDigits (u : Uuid) : ofHex? (hexDigits 32 u.value) = some u := by
  have hlength := length_hexDigits 32 u.value
  have hvalue : hexAfter 0 (hexDigits 32 u.value) = some u.value :=
    hexAfter_hexDigits (Nat.lt_of_lt_of_eq u.value_lt (by decide))
  unfold ofHex?
  refine Option.bind_eq_some_iff.2 ⟨_, guard_eq_some hlength, ?_⟩
  refine Option.bind_eq_some_iff.2 ⟨_, hvalue, ?_⟩
  exact dif_pos u.value_lt

/-- The form is five groups of digits with hyphens between them. -/
theorem exists_text_eq (u : Uuid) :
    ∃ a b c d e, hexDigits 32 u.value = a ++ b ++ c ++ d ++ e ∧
      u.text = [a, ['-'], b, ['-'], c, ['-'], d, ['-'], e].flatten ∧
      [a, ['-'], b, ['-'], c, ['-'], d, ['-'], e].map List.length = [8, 1, 4, 1, 4, 1, 4, 1, 12] := by
  have hsum : (hexDigits 32 u.value).length = groupLengths.foldr (· + ·) 0 :=
    length_hexDigits 32 _
  have hflatten := flatten_groups hsum
  have hlengths := map_length_groups (Nat.le_of_eq hsum.symm)
  rw [text]
  generalize hexDigits 32 u.value = s at hflatten hlengths ⊢
  obtain ⟨a, b, c, d, e, hgroups⟩ : ∃ a b c d e, groups groupLengths s = [a, b, c, d, e] :=
    ⟨_, _, _, _, _, rfl⟩
  rw [hgroups] at hflatten hlengths ⊢
  simp only [groupLengths, List.map_cons, List.map_nil, List.cons.injEq, and_true] at hlengths
  refine ⟨a, b, c, d, e, ?_, ?_, ?_⟩
  · rw [← hflatten]
    simp
  · simp [List.intercalate]
  · simp [hlengths]

theorem length_text (u : Uuid) : u.text.length = 36 := by
  obtain ⟨a, b, c, d, e, -, htext, hlengths⟩ := u.exists_text_eq
  rw [htext, List.length_flatten, hlengths]
  rfl

theorem ofHyphenated?_text (u : Uuid) : ofHyphenated? u.text = some u := by
  have hlength := u.length_text
  obtain ⟨a, b, c, d, e, hdigits, htext, hlengths⟩ := u.exists_text_eq
  have hgroups : groups [8, 1, 4, 1, 4, 1, 4, 1, 12] u.text =
      [a, ['-'], b, ['-'], c, ['-'], d, ['-'], e] := by
    rw [htext, ← hlengths]
    exact groups_flatten _
  have hform : u.text.length = 36 ∧
      [['-'], ['-'], ['-'], ['-']] = List.replicate 4 ['-'] := ⟨hlength, rfl⟩
  unfold ofHyphenated?
  rw [hgroups]
  refine Option.bind_eq_some_iff.2 ⟨_, guard_eq_some hform, ?_⟩
  rw [← hdigits]
  exact u.ofHex?_hexDigits

/-- An identifier that is written is read as the same identifier. -/
theorem read?_text (u : Uuid) : read? u.text = some u := by
  rw [read?, if_neg (by rw [u.length_text]; decide), if_pos u.length_text]
  exact u.ofHyphenated?_text

end ReportPlan.Uuid
