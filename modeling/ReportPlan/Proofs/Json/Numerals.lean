import ReportPlan.Json.Numeral
import ReportPlan.Proofs.Number.Decimal

/-! # Numbers of JSON read back

The reader of a number stops where its text ends, whatever stands behind it, unless that continues
the number. So a text that reads as a number on its own reads as that number in any place.

* `NumeralEnds`: a text that does not continue a number.
* `Numeral.read?_append`: the reader does not look beyond.
* `Numeral.Survives`: the text of a number reads as that number.
* `Numeral.survives_natural`: natural numbers of 64 bits survive.
-/

set_option autoImplicit false

namespace ReportPlan.Json

open Text (isPlainDigit plainDigit?)

/-! ## Where numbers end -/

/-- Whether a text does not continue a number. -/
def NumeralEnds (s : List Char) : Prop :=
  ∀ c ∈ s.head?, isPlainDigit c = false ∧ c ≠ '.' ∧ c ≠ 'e' ∧ c ≠ 'E'

theorem numeralEnds_nil : NumeralEnds [] :=
  fun _ h => nomatch h

theorem numeralEnds_cons {c : Char} {s : List Char}
    (h : isPlainDigit c = false ∧ c ≠ '.' ∧ c ≠ 'e' ∧ c ≠ 'E') : NumeralEnds (c :: s) := by
  intro d hd
  cases hd
  exact h

theorem NumeralEnds.noDigitAhead {s : List Char} (h : NumeralEnds s) : NoDigitAhead s :=
  fun c hc => (h c hc).1

/-! ## Parts of numbers -/

theorem takeWhile_append_of_noDigitAhead {s more : List Char} (h : NoDigitAhead more) :
    (s ++ more).takeWhile isPlainDigit = s.takeWhile isPlainDigit := by
  induction s with
  | nil =>
    cases more with
    | nil => rfl
    | cons c more => simp [h c rfl]
  | cons c s ih =>
    rw [List.cons_append, List.takeWhile_cons, List.takeWhile_cons, ih]

theorem dropWhile_append_of_noDigitAhead {s more : List Char} (h : NoDigitAhead more) :
    (s ++ more).dropWhile isPlainDigit = s.dropWhile isPlainDigit ++ more := by
  induction s with
  | nil =>
    cases more with
    | nil => rfl
    | cons c more => simp [h c rfl]
  | cons c s ih =>
    rw [List.cons_append, List.dropWhile_cons, List.dropWhile_cons, ih]
    split <;> rfl

theorem drop_digits_append (s more : List Char) :
    (s ++ more).drop (s.takeWhile isPlainDigit).length =
      s.drop (s.takeWhile isPlainDigit).length ++ more :=
  List.drop_append_of_le_length (List.takeWhile_prefix _).length_le

theorem takeSignificand_append {more : List Char} (hmore : NoDigitAhead more) (n : Nat)
    (s : List Char) :
    takeSignificand n (s ++ more) =
      ((takeSignificand n s).1, (takeSignificand n s).2.1, (takeSignificand n s).2.2 ++ more) := by
  induction s generalizing n with
  | nil =>
    cases more with
    | nil => rfl
    | cons c more => simp [takeSignificand, plainDigit?_eq_none (hmore c rfl)]
  | cons c s ih =>
    rw [List.cons_append, takeSignificand, takeSignificand]
    cases plainDigit? c with
    | none => rfl
    | some d =>
      simp only [ih]
      split <;> rfl

theorem fractionPart?_append {more : List Char} (hmore : NumeralEnds more) {n m : Nat}
    {places : Option Nat} {s left : List Char} (h : fractionPart? n s = some (m, places, left)) :
    fractionPart? n (s ++ more) = some (m, places, left ++ more) := by
  unfold fractionPart? at h
  split at h
  · -- a point, and at least one digit
    split at h
    · cases h
    · rename_i c rest
      rw [List.cons_append, List.cons_append, fractionPart?]
      by_cases hdigit : isPlainDigit c = true
      · rw [if_pos hdigit] at h ⊢
        simp only [Option.some.injEq, Prod.mk.injEq] at h
        obtain ⟨rfl, rfl, rfl⟩ := h
        rw [← List.cons_append, takeSignificand_append hmore.noDigitAhead]
        simp only [dropWhile_append_of_noDigitAhead hmore.noDigitAhead]
      · rw [if_neg hdigit] at h
        cases h
  · rename_i hpoint
    cases h
    unfold fractionPart?
    split
    · rename_i rest heq
      cases s with
      | nil =>
        rw [List.nil_append] at heq
        rw [heq] at hmore
        exact absurd rfl (hmore '.' rfl).2.1
      | cons c s =>
        rw [List.cons_append, List.cons.injEq] at heq
        exact absurd (heq.1 ▸ rfl) (hpoint s)
    · rfl

/-- The sign of an exponent, whether it is negative, and what is behind it. -/
def exponentSign : List Char → Bool × List Char
  | '+' :: rest => (false, rest)
  | '-' :: rest => (true, rest)
  | rest => (false, rest)

/-- The digits of an exponent, whose sign is known, and what is behind them. -/
def exponentDigits? (negative : Bool) (s : List Char) : Option (Option Int × List Char) :=
  let run := s.takeWhile isPlainDigit
  (readNat run).map fun n => (some (if negative then -(n : Int) else n), s.drop run.length)

theorem exponentPart?_cons (c : Char) (s : List Char) :
    exponentPart? (c :: s) =
      if c = 'e' || c = 'E' then exponentDigits? (exponentSign s).1 (exponentSign s).2
      else some (none, c :: s) := rfl

theorem exponentSign_append {s : List Char} (hne : s ≠ []) (more : List Char) :
    exponentSign (s ++ more) = ((exponentSign s).1, (exponentSign s).2 ++ more) := by
  obtain ⟨c, s, rfl⟩ := List.exists_cons_of_ne_nil hne
  by_cases hplus : c = '+'
  · rw [hplus]
    rfl
  · by_cases hminus : c = '-'
    · rw [hminus]
      rfl
    · simp [exponentSign, hplus, hminus]

theorem exponentDigits?_append {more : List Char} (hmore : NoDigitAhead more) {negative : Bool}
    {exponent : Option Int} {s left : List Char}
    (h : exponentDigits? negative s = some (exponent, left)) :
    exponentDigits? negative (s ++ more) = some (exponent, left ++ more) := by
  simp only [exponentDigits?, Option.map_eq_some_iff, Prod.mk.injEq] at h ⊢
  obtain ⟨n, hn, hexponent, rfl⟩ := h
  rw [takeWhile_append_of_noDigitAhead hmore, drop_digits_append]
  exact ⟨n, hn, hexponent, rfl⟩

theorem exponentPart?_append {more : List Char} (hmore : NumeralEnds more)
    {exponent : Option Int} {s left : List Char} (h : exponentPart? s = some (exponent, left)) :
    exponentPart? (s ++ more) = some (exponent, left ++ more) := by
  cases s with
  | nil =>
    cases h
    cases more with
    | nil => rfl
    | cons c more =>
      obtain ⟨-, -, hsmall, hcapital⟩ := hmore c rfl
      simp [exponentPart?, hsmall, hcapital]
  | cons c s =>
    rw [exponentPart?_cons] at h
    rw [List.cons_append, exponentPart?_cons]
    by_cases hmark : (c = 'e' || c = 'E') = true
    · rw [if_pos hmark] at h ⊢
      have hne : s ≠ [] := by
        rintro rfl
        cases h
      rw [exponentSign_append hne]
      exact exponentDigits?_append hmore.noDigitAhead h
    · rw [if_neg hmark] at h ⊢
      cases h
      rfl

/-- The digits before a point: as many as a significand holds, and the rest. -/
def wholePart? : List Char → Option (Nat × Nat × List Char)
  | '0' :: rest => if rest.head?.any isPlainDigit then none else some (0, 1, rest)
  | c :: rest => if isPlainDigit c then some (takeSignificand 0 (c :: rest)) else none
  | [] => none

theorem wholePart?_append {more : List Char} (hmore : NoDigitAhead more) {n taken : Nat}
    {s left : List Char} (h : wholePart? s = some (n, taken, left)) :
    wholePart? (s ++ more) = some (n, taken, left ++ more) := by
  cases s with
  | nil => cases h
  | cons c s =>
    rw [List.cons_append]
    by_cases hzero : c = '0'
    · subst hzero
      simp only [wholePart?, Option.ite_none_left_eq_some, Option.some.injEq, Prod.mk.injEq] at h ⊢
      obtain ⟨hdigit, hn, htaken, rfl⟩ := h
      refine ⟨?_, hn, htaken, rfl⟩
      cases s with
      | nil =>
        cases more with
        | nil => simp
        | cons c more => simp [hmore c rfl]
      | cons c s => exact hdigit
    · simp only [wholePart?, Option.ite_none_right_eq_some, Option.some.injEq] at h ⊢
      refine ⟨h.1, ?_⟩
      rw [← List.cons_append, takeSignificand_append hmore, h.2]

/-- What is read behind the digits before a point. -/
def readTail? (negative : Bool) (whole : Nat) (s : List Char) : Option (Numeral × List Char) := do
  let beyond := (s.takeWhile isPlainDigit).length
  let (significand, places, s) ← fractionPart? whole (s.drop beyond)
  let (exponent, s) ← exponentPart? s
  if beyond = 0 ∧ places = none ∧ exponent = none then
    some (wholeNumeral negative whole, s)
  else
    let x ← scaled? negative significand ((beyond : Int) - places.getD 0 + exponent.getD 0)
    some (.floating x, s)

theorem readMagnitude?_eq (negative : Bool) (s : List Char) :
    readMagnitude? negative s = (wholePart? s).bind fun p => readTail? negative p.1 p.2.2 := by
  cases s with
  | nil => rfl
  | cons c s =>
    by_cases hzero : c = '0'
    · subst hzero
      simp only [readMagnitude?, wholePart?]
      split <;> rfl
    · simp only [readMagnitude?, wholePart?]
      split <;> rfl

theorem readTail?_append {more : List Char} (hmore : NumeralEnds more) {negative : Bool}
    {whole : Nat} {s rest : List Char} {n : Numeral}
    (h : readTail? negative whole s = some (n, rest)) :
    readTail? negative whole (s ++ more) = some (n, rest ++ more) := by
  simp only [readTail?, Option.bind_eq_bind, Option.bind_eq_some_iff, Prod.exists] at h
  obtain ⟨significand, places, s₁, hfraction, exponent, s₂, hexponent, h⟩ := h
  simp only [readTail?, takeWhile_append_of_noDigitAhead hmore.noDigitAhead, drop_digits_append,
    fractionPart?_append hmore hfraction, exponentPart?_append hmore hexponent, Option.bind_eq_bind, Option.bind_some]
  by_cases hwhole : (s.takeWhile isPlainDigit).length = 0 ∧ places = none ∧ exponent = none
  · rw [if_pos hwhole] at h ⊢
    cases h
    rfl
  · rw [if_neg hwhole, Option.bind_eq_some_iff] at h
    obtain ⟨x, hx, h⟩ := h
    cases h
    rw [if_neg hwhole, hx, Option.bind_some]

theorem readMagnitude?_append {more : List Char} (hmore : NumeralEnds more) {negative : Bool}
    {s rest : List Char} {n : Numeral} (h : readMagnitude? negative s = some (n, rest)) :
    readMagnitude? negative (s ++ more) = some (n, rest ++ more) := by
  rw [readMagnitude?_eq, Option.bind_eq_some_iff] at h
  obtain ⟨⟨whole, taken, left⟩, hwhole, htail⟩ := h
  rw [readMagnitude?_eq, wholePart?_append hmore.noDigitAhead hwhole, Option.bind_some]
  exact readTail?_append hmore htail

namespace Numeral

theorem read?_cons {c : Char} (s : List Char) (h : c ≠ '-') :
    read? (c :: s) = readMagnitude? false (c :: s) := by
  simp [read?, h]

/-- What is read does not depend on what stands behind. -/
theorem read?_append {more : List Char} (hmore : NumeralEnds more) {s rest : List Char}
    {n : Numeral} (h : read? s = some (n, rest)) : read? (s ++ more) = some (n, rest ++ more) := by
  cases s with
  | nil => cases h
  | cons c s =>
    by_cases hminus : c = '-'
    · subst hminus
      exact readMagnitude?_append hmore h
    · rw [read?_cons _ hminus] at h
      rw [List.cons_append, read?_cons _ hminus]
      exact readMagnitude?_append hmore h

/-- A number begins with a minus sign or a digit. -/
theorem exists_head_of_read? {s : List Char} {r : Numeral × List Char} (h : read? s = some r) :
    ∃ c rest, s = c :: rest ∧ (c = '-' ∨ isPlainDigit c = true) := by
  cases s with
  | nil => cases h
  | cons c s =>
    refine ⟨c, s, rfl, ?_⟩
    by_cases hminus : c = '-'
    · exact .inl hminus
    · rw [read?_cons _ hminus, readMagnitude?_eq, Option.bind_eq_some_iff] at h
      obtain ⟨p, hwhole, -⟩ := h
      by_cases hzero : c = '0'
      · rw [hzero]
        exact .inr (by decide)
      · simp only [wholePart?, Option.ite_none_right_eq_some] at hwhole
        exact .inr hwhole.1

/-! ## Numbers that survive -/

/-- Whether the text of a number reads as that number. -/
def Survives (n : Numeral) : Prop :=
  read? n.text = some (n, [])

/-- A number that survives is read in any place. -/
theorem Survives.read?_append {n : Numeral} (h : n.Survives) {more : List Char}
    (hmore : NumeralEnds more) : read? (n.text ++ more) = some (n, more) :=
  Numeral.read?_append hmore h

end Numeral

/-! ## Natural numbers -/

theorem le_of_digitsAfter {m n : Nat} {s : List Char} (h : digitsAfter m s = some n) : m ≤ n := by
  induction s generalizing m with
  | nil =>
    cases h
    exact Nat.le_refl _
  | cons c s ih =>
    rw [digitsAfter] at h
    split at h
    · have := ih h
      omega
    · cases h

/-- A significand that can be kept takes all its digits. -/
theorem takeSignificand_of_digitsAfter {m n : Nat} {s : List Char} (h : digitsAfter m s = some n)
    (hn : n ≤ greatestSignificand) : takeSignificand m s = (n, s.length, []) := by
  induction s generalizing m with
  | nil =>
    cases h
    rfl
  | cons c s ih =>
    rw [digitsAfter] at h
    rw [takeSignificand]
    split at h
    · rename_i d hdigit
      have hfits : 10 * m + d ≤ greatestSignificand := Nat.le_trans (le_of_digitsAfter h) hn
      rw [hdigit]
      simp only [if_pos hfits, ih h, List.length_cons]
    · cases h

theorem wholePart?_digits {n : Nat} (hn : n ≤ greatestSignificand) :
    wholePart? (digits n) = some (n, (digits n).length, []) := by
  by_cases hzero : n = 0
  · subst hzero
    decide
  · have htake := takeSignificand_of_digitsAfter (digitsAfter_digits n) hn
    have hhead := head_digits_ne_zero (Nat.pos_of_ne_zero hzero)
    have hdigits := allDigits_digits n
    obtain ⟨c, s, hcons⟩ := List.exists_cons_of_ne_nil (digits_ne_nil n)
    rw [hcons] at htake hhead hdigits ⊢
    have hc : c ≠ '0' := fun h => hhead (h ▸ rfl)
    simp only [wholePart?, hdigits.head, if_true, htake]

/-- The natural numbers of 64 bits are read as they are written. -/
theorem Numeral.survives_natural {n : Nat} (hn : n ≤ greatestSignificand) :
    (Numeral.integer (n : Int)).Survives := by
  have htext : (Numeral.integer (n : Int)).text = digits n := by
    rw [text, integerText, if_neg (by omega), Int.natAbs_natCast]
  have htail : readTail? false n [] = some (.integer n, []) := rfl
  have hmagnitude : readMagnitude? false (digits n) = some (.integer n, []) := by
    rw [readMagnitude?_eq, wholePart?_digits hn, Option.bind_some]
    exact htail
  have hdigits := allDigits_digits n
  obtain ⟨c, s, hcons⟩ := List.exists_cons_of_ne_nil (digits_ne_nil n)
  rw [Survives, htext]
  rw [hcons] at hmagnitude hdigits ⊢
  have hc : c ≠ '-' := by
    rintro rfl
    cases hdigits.head
  rw [read?_cons s hc]
  exact hmagnitude

/-! ## Floating-point numbers

The text of a floating-point number has a point or an exponent, and a text with one of them does
not read as an integer. -/

theorem eq_of_fractionPart? {n m : Nat} {s left : List Char}
    (h : fractionPart? n s = some (m, none, left)) : left = s := by
  unfold fractionPart? at h
  split at h
  · split at h
    · cases h
    · split at h
      · simp at h
      · cases h
  · cases h
    rfl

theorem eq_of_exponentPart? {s left : List Char} (h : exponentPart? s = some (none, left)) :
    left = s := by
  cases s with
  | nil =>
    cases h
    rfl
  | cons c s =>
    rw [exponentPart?_cons] at h
    split at h
    · rw [exponentDigits?, Option.map_eq_some_iff] at h
      obtain ⟨n, -, h⟩ := h
      cases h
    · cases h
      rfl

/-- Only what has neither a point nor an exponent is an integer. -/
theorem eq_of_readTail?_integer {negative : Bool} {whole : Nat} {s rest : List Char} {n : Int}
    (h : readTail? negative whole s = some (.integer n, rest)) : rest = s := by
  simp only [readTail?, Option.bind_eq_bind, Option.bind_eq_some_iff, Prod.exists] at h
  obtain ⟨significand, places, s₁, hfraction, exponent, s₂, hexponent, h⟩ := h
  by_cases hwhole : (s.takeWhile isPlainDigit).length = 0 ∧ places = none ∧ exponent = none
  · obtain ⟨hbeyond, rfl, rfl⟩ := hwhole
    rw [hbeyond, List.drop_zero] at hfraction
    simp only [hbeyond, and_self, if_true, Option.some.injEq, Prod.mk.injEq] at h
    rw [← h.2, eq_of_exponentPart? hexponent, eq_of_fractionPart? hfraction]
  · rw [if_neg hwhole, Option.bind_eq_some_iff] at h
    obtain ⟨x, -, h⟩ := h
    cases h

theorem allDigits_of_takeSignificand {n : Nat} {s : List Char}
    (h : (takeSignificand n s).2.2 = []) : AllDigits s := by
  induction s generalizing n with
  | nil => exact fun _ hc => nomatch hc
  | cons c s ih =>
    rw [takeSignificand] at h
    cases hdigit : plainDigit? c with
    | none =>
      rw [hdigit] at h
      cases h
    | some d =>
      have hc : isPlainDigit c = true := by
        rw [plainDigit?, Option.ite_none_right_eq_some] at hdigit
        exact hdigit.1
      simp only [hdigit] at h
      by_cases hfits : 10 * n + d ≤ greatestSignificand
      · rw [if_pos hfits] at h
        exact List.forall_mem_cons.2 ⟨hc, ih h⟩
      · rw [if_neg hfits] at h
        cases h

theorem allDigits_of_wholePart? {n taken : Nat} {s : List Char}
    (h : wholePart? s = some (n, taken, [])) : AllDigits s := by
  cases s with
  | nil => cases h
  | cons c s =>
    by_cases hzero : c = '0'
    · subst hzero
      simp only [wholePart?, Option.ite_none_left_eq_some, Option.some.injEq, Prod.mk.injEq] at h
      obtain ⟨-, -, -, rfl⟩ := h
      exact List.forall_mem_singleton.2 (by decide)
    · simp only [wholePart?, Option.ite_none_right_eq_some, Option.some.injEq] at h
      exact allDigits_of_takeSignificand (by rw [h.2])

theorem allDigits_of_readMagnitude? {negative : Bool} {s : List Char} {n : Int}
    (h : readMagnitude? negative s = some (.integer n, [])) : AllDigits s := by
  rw [readMagnitude?_eq, Option.bind_eq_some_iff] at h
  obtain ⟨⟨whole, taken, left⟩, hwhole, htail⟩ := h
  have hleft : [] = left := eq_of_readTail?_integer htail
  subst hleft
  exact allDigits_of_wholePart? hwhole

namespace Numeral

/-- A text that reads as an integer has no point and no exponent. -/
theorem not_mem_of_read?_integer {s : List Char} {n : Int} (h : read? s = some (.integer n, []))
    {c : Char} (hc : c ≠ '-' ∧ isPlainDigit c = false) : c ∉ s := by
  have hdigits : ∀ t, AllDigits t → c ∉ t := by
    intro t ht hmem
    rw [ht c hmem] at hc
    cases hc.2
  cases s with
  | nil => cases h
  | cons d s =>
    by_cases hminus : d = '-'
    · subst hminus
      rw [List.mem_cons, not_or]
      exact ⟨hc.1, hdigits s (allDigits_of_readMagnitude? h)⟩
    · rw [read?_cons _ hminus] at h
      exact hdigits _ (allDigits_of_readMagnitude? h)

end Numeral

theorem point_mem_positionalText (ds : List Char) (exponent : Int) :
    '.' ∈ floatingLayout.positionalText ds exponent := by
  unfold Layout.positionalText
  split
  · simp [floatingLayout]
  · simp only
    split <;> simp

theorem exponent_mem_scientificText (ds : List Char) (lead : Int) :
    'e' ∈ floatingLayout.scientificText ds lead := by
  simp [Layout.scientificText]

/-- The text of a finite number has a point or an exponent. -/
theorem mark_mem_render {x : Binary64} (h : x.isFinite = true) :
    '.' ∈ floatingLayout.render x ∨ 'e' ∈ floatingLayout.render x := by
  have heither : ∀ (inside : Bool) (ds : List Char) (exponent lead : Int),
      let s := if inside then floatingLayout.positionalText ds exponent
        else floatingLayout.scientificText ds lead
      '.' ∈ s ∨ 'e' ∈ s := by
    intro inside ds exponent lead
    cases inside with
    | true => exact .inl (point_mem_positionalText _ _)
    | false => exact .inr (exponent_mem_scientificText _ _)
  have hmagnitude : '.' ∈ floatingLayout.magnitudeText x ∨ 'e' ∈ floatingLayout.magnitudeText x := by
    unfold Layout.magnitudeText
    split
    · exact .inl (point_mem_positionalText _ _)
    · exact heither _ _ _ _
  rw [Layout.render, if_pos h, List.mem_append, List.mem_append]
  exact hmagnitude.imp .inr .inr

/-- A finite number whose text reads as a number of the same value survives. -/
theorem Numeral.survives_floating {x : Binary64} (h : x.isFinite = true) {n : Numeral}
    (hread : read? (Numeral.floating x).text = some (n, [])) (hvalue : n.value = x) :
    (Numeral.floating x).Survives := by
  cases n with
  | integer n =>
    have hno : ∀ c, c ≠ '-' ∧ isPlainDigit c = false → c ∉ floatingLayout.render x :=
      fun c hc => not_mem_of_read?_integer hread hc
    rcases mark_mem_render h with hmem | hmem
    · exact absurd hmem (hno '.' (by decide))
    · exact absurd hmem (hno 'e' (by decide))
  | floating y =>
    have hxy : y = x := hvalue
    rw [Survives, hread, hxy]

end ReportPlan.Json
