import ReportPlan.Json.Reader

/-! # Quoted strings read back

* `hexValue?_hexDigit`: a hexadecimal digit has the value it was made from.
* `exists_piece`: an escaped character is read as one part of a string, which stands for that
  character.
* `readText?_quote`: a quoted string is read as that string, up to its closing quote.
-/

set_option autoImplicit false

namespace ReportPlan.Json

/-! ## Hexadecimal digits -/

theorem hexValue?_hexDigit : ∀ d < 16, hexValue? (hexDigit d) = some d := by decide

/-- The escape of a control character gives its code point. -/
theorem codeUnit?_control {n : Nat} (h : n < 0x20) :
    codeUnit? '0' '0' (hexDigit (n / 16)) (hexDigit (n % 16)) = some n := by
  have hzero : hexValue? '0' = some 0 := by decide
  have hhigh := hexValue?_hexDigit (n / 16) (by omega)
  have hlow := hexValue?_hexDigit (n % 16) (by omega)
  have hsum : ((0 * 16 + 0) * 16 + n / 16) * 16 + n % 16 = n := by omega
  simp only [codeUnit?, hzero, hhigh, hlow, Option.bind_eq_bind, Option.bind_some, hsum]

/-! ## Parts of strings -/

/-- Puts a part of a string before others. -/
def withPiece (p : Piece) (r : List Piece × List Char) : List Piece × List Char :=
  (p :: r.1, r.2)

theorem pieces?_plain {c : Char} (s : List Char) (hquote : c ≠ '"') (hslash : c ≠ '\\')
    (hcontrol : ¬c.toNat < 0x20) : pieces? (c :: s) = (pieces? s).map (withPiece (.char c)) := by
  rw [pieces?.eq_def]
  split
  · rename_i heq
    cases heq
  · rename_i heq
    exact absurd (List.cons.inj heq).1 hquote
  · rename_i heq
    exact absurd (List.cons.inj heq).1 hslash
  · rename_i heq
    exact absurd (List.cons.inj heq).1 hslash
  · rename_i heq
    obtain ⟨rfl, rfl⟩ := List.cons.inj heq
    rw [if_neg (by simp [hslash, hcontrol])]
    rfl

theorem pieces?_short {e c : Char} (s : List Char) (h : shortEscape? e = some c) :
    pieces? ('\\' :: e :: s) = (pieces? s).map (withPiece (.char c)) := by
  have hu : e ≠ 'u' := by
    rintro rfl
    cases h
  rw [pieces?.eq_def]
  split
  · rename_i heq
    cases heq
  · rename_i heq
    cases (List.cons.inj heq).1
  · rename_i heq
    exact absurd (List.cons.inj (List.cons.inj heq).2).1 hu
  · rename_i heq
    obtain ⟨rfl, rfl⟩ := List.cons.inj (List.cons.inj heq).2
    rw [h]
    cases pieces? s <;> rfl
  · rename_i hnone heq
    obtain ⟨rfl, rfl⟩ := List.cons.inj heq
    exact absurd rfl (hnone e s rfl)

theorem pieces?_unit {a b c d : Char} {n : Nat} (s : List Char) (h : codeUnit? a b c d = some n) :
    pieces? ('\\' :: 'u' :: a :: b :: c :: d :: s) = (pieces? s).map (withPiece (.unit n)) := by
  rw [pieces?, h]
  cases pieces? s <;> rfl

theorem characters?_char (c : Char) (ps : List Piece) :
    characters? (.char c :: ps) = (characters? ps).map (c :: ·) := rfl

/-- A code unit outside the surrogate ranges is a character of its own. -/
theorem characters?_unit {c : Char} (ps : List Piece) (h : c.toNat < 0xD800) :
    characters? (.unit c.toNat :: ps) = (characters? ps).map (c :: ·) := by
  rw [characters?.eq_def]
  simp only [h, true_or, if_true, Char.ofNat_toNat]

/-- An escaped character is read as one part, which stands for the character. -/
theorem exists_piece (c : Char) :
    ∃ p, (∀ s, pieces? (escape c ++ s) = (pieces? s).map (withPiece p)) ∧
      ∀ ps, characters? (p :: ps) = (characters? ps).map (c :: ·) := by
  have hshort : ∀ e, shortEscape? e = some c → escape c = ['\\', e] →
      ∃ p, (∀ s, pieces? (escape c ++ s) = (pieces? s).map (withPiece p)) ∧
        ∀ ps, characters? (p :: ps) = (characters? ps).map (c :: ·) := by
    intro e he hescape
    refine ⟨.char c, fun s => ?_, characters?_char c⟩
    rw [hescape]
    exact pieces?_short s he
  by_cases hquote : c = '"'
  · exact hshort '"' (by rw [hquote]; decide) (by rw [hquote]; decide)
  by_cases hslash : c = '\\'
  · exact hshort '\\' (by rw [hslash]; decide) (by rw [hslash]; decide)
  by_cases hbackspace : c = '\x08'
  · exact hshort 'b' (by rw [hbackspace]; decide) (by rw [hbackspace]; decide)
  by_cases hfeed : c = '\x0c'
  · exact hshort 'f' (by rw [hfeed]; decide) (by rw [hfeed]; decide)
  by_cases hline : c = '\n'
  · exact hshort 'n' (by rw [hline]; decide) (by rw [hline]; decide)
  by_cases hreturn : c = '\r'
  · exact hshort 'r' (by rw [hreturn]; decide) (by rw [hreturn]; decide)
  by_cases htab : c = '\t'
  · exact hshort 't' (by rw [htab]; decide) (by rw [htab]; decide)
  by_cases hcontrol : c.toNat < 0x20
  · refine ⟨.unit c.toNat, fun s => ?_, fun ps => characters?_unit ps (by omega)⟩
    simp only [escape, hquote, hslash, hbackspace, hfeed, hline, hreturn, htab, hcontrol, if_false,
      if_true]
    exact pieces?_unit s (codeUnit?_control hcontrol)
  · refine ⟨.char c, fun s => ?_, characters?_char c⟩
    simp only [escape, hquote, hslash, hbackspace, hfeed, hline, hreturn, htab, hcontrol, if_false]
    exact pieces?_plain s hquote hslash hcontrol

/-! ## Whole strings -/

/-- Escaped characters are read as parts that stand for them, up to the closing quote. -/
theorem exists_pieces (cs rest : List Char) :
    ∃ ps, pieces? (cs.flatMap escape ++ '"' :: rest) = some (ps, rest) ∧
      characters? ps = some cs := by
  induction cs with
  | nil => exact ⟨[], rfl, rfl⟩
  | cons c cs ih =>
    obtain ⟨ps, hpieces, hcharacters⟩ := ih
    obtain ⟨p, hp, hc⟩ := exists_piece c
    refine ⟨p :: ps, ?_, ?_⟩
    · rw [List.flatMap_cons, List.append_assoc, hp, hpieces]
      rfl
    · rw [hc, hcharacters]
      rfl

/-- What is quoted is read as the same string. -/
theorem readText?_quote (s : String) (rest : List Char) :
    readText? (s.toList.flatMap escape ++ '"' :: rest) = some (s, rest) := by
  obtain ⟨ps, hpieces, hcharacters⟩ := exists_pieces s.toList rest
  simp only [readText?, hpieces, hcharacters, Option.bind_eq_bind, Option.bind_some,
    String.ofList_toList]

end ReportPlan.Json
