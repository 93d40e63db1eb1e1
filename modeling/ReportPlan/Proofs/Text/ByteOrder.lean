import ReportPlan.Lexicon.Dictionary

/-! # Texts in the order of their bytes

Strings are ordered by their characters, and their bytes in UTF-8 are in the same order: of two
characters the one with more bytes has the greater first byte, and if they have equally many, the
first byte that differs decides.

* `String.utf8Bytes`: the bytes of a string.
* `utf8EncodeChar_append_lt`: the smaller character has the smaller bytes, whatever follows.
* `utf8Bytes_lt`: the smaller string has the smaller bytes.
* `Dictionary.ascending_utf8Bytes`: a dictionary is in the order of the bytes of its keys.
-/

set_option autoImplicit false

/-- The bytes of a string in UTF-8. -/
def String.utf8Bytes (s : String) : List UInt8 :=
  s.toByteArray.data.toList

namespace ReportPlan

/-! ## Characters -/

theorem byte_cons_lt {m n : Nat} (hn : n < 256) {s t : List UInt8}
    (h : m < n ∨ m = n ∧ s < t) : UInt8.ofNat m :: s < UInt8.ofNat n :: t := by
  rw [List.cons_lt_cons_iff]
  rcases h with h | ⟨rfl, h⟩
  · refine .inl ?_
    rw [UInt8.lt_iff_toNat_lt, UInt8.toNat_ofNat_of_lt' (Nat.lt_trans h hn),
      UInt8.toNat_ofNat_of_lt' hn]
    exact h
  · exact .inr ⟨rfl, h⟩

theorem utf8EncodeChar_append_lt {c d : Char} (h : c < d) (s t : List UInt8) :
    String.utf8EncodeChar c ++ s < String.utf8EncodeChar d ++ t := by
  have hlt : c.val.toNat < d.val.toNat := h
  have hd : d.val.toNat < 0x110000 := by
    rcases d.valid with hd | hd <;> omega
  simp only [String.utf8EncodeChar]
  generalize c.val.toNat = m at hlt
  generalize d.val.toNat = n at hlt hd
  -- the ranges of one, two, three and four bytes; only within one range do later bytes matter
  split
  · split
    · exact byte_cons_lt (by omega) (.inl hlt)
    · split
      · exact byte_cons_lt (by omega) (.inl (by omega))
      · split <;> exact byte_cons_lt (by omega) (.inl (by omega))
  · split
    · rw [if_neg (by omega)]
      split
      · refine byte_cons_lt (by omega) ?_
        by_cases hfirst : m / 64 = n / 64
        · exact .inr ⟨by omega, byte_cons_lt (by omega) (.inl (by omega))⟩
        · exact .inl (by omega)
      · split <;> exact byte_cons_lt (by omega) (.inl (by omega))
    · split
      · rw [if_neg (by omega), if_neg (by omega)]
        split
        · refine byte_cons_lt (by omega) ?_
          by_cases hfirst : m / 4096 = n / 4096
          · refine .inr ⟨by omega, byte_cons_lt (by omega) ?_⟩
            by_cases hsecond : m / 64 = n / 64
            · exact .inr ⟨by omega, byte_cons_lt (by omega) (.inl (by omega))⟩
            · exact .inl (by omega)
          · exact .inl (by omega)
        · exact byte_cons_lt (by omega) (.inl (by omega))
      · rw [if_neg (by omega), if_neg (by omega), if_neg (by omega)]
        refine byte_cons_lt (by omega) ?_
        by_cases hfirst : m / 262144 = n / 262144
        · refine .inr ⟨by omega, byte_cons_lt (by omega) ?_⟩
          by_cases hsecond : m / 4096 = n / 4096
          · refine .inr ⟨by omega, byte_cons_lt (by omega) ?_⟩
            by_cases hthird : m / 64 = n / 64
            · exact .inr ⟨by omega, byte_cons_lt (by omega) (.inl (by omega))⟩
            · exact .inl (by omega)
          · exact .inl (by omega)
        · exact .inl (by omega)

/-! ## Strings -/

theorem flatMap_utf8EncodeChar_lt {s t : List Char} (h : s < t) :
    s.flatMap String.utf8EncodeChar < t.flatMap String.utf8EncodeChar := by
  induction h with
  | @nil c rest =>
    obtain ⟨b, bytes, hbytes⟩ := List.exists_cons_of_ne_nil (String.utf8EncodeChar_ne_nil (c := c))
    rw [List.flatMap_nil, List.flatMap_cons, hbytes]
    exact List.Lex.nil
  | rel h =>
    rw [List.flatMap_cons, List.flatMap_cons]
    exact utf8EncodeChar_append_lt h _ _
  | cons h ih =>
    rw [List.flatMap_cons, List.flatMap_cons]
    exact List.append_left_lt ih

theorem utf8Bytes_eq (s : String) : s.utf8Bytes = s.toList.flatMap String.utf8EncodeChar := by
  rw [String.utf8Bytes, ← String.utf8Encode_toList, List.utf8Encode]
  simp

theorem utf8Bytes_lt {s t : String} (h : s < t) : s.utf8Bytes < t.utf8Bytes := by
  rw [utf8Bytes_eq, utf8Bytes_eq]
  exact flatMap_utf8EncodeChar_lt h

/-- A dictionary is in the order of the bytes of its keys. -/
theorem Dictionary.ascending_utf8Bytes {α : Type} (d : Dictionary α) :
    d.entries.Pairwise fun a b => a.1.utf8Bytes < b.1.utf8Bytes :=
  d.ascending.imp utf8Bytes_lt

end ReportPlan
