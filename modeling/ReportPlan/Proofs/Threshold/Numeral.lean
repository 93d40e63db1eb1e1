import ReportPlan.Proofs.Number.Decimal
import ReportPlan.Proofs.Number.Rounding
import ReportPlan.Proofs.Text.Runs
import ReportPlan.Proofs.Threshold.Wording

/-! # Numerals with commas

A numeral is read as the number nearest to its digits, as if it had no commas. In a text it goes on
as far as it can.

* `WrittenNumeral`: a numeral of plain digits; `WrittenNumeral.nearest` is its number.
* `WrittenNumeral.numeralValue?_text`: it is read as that number.
* `WrittenNumeral.EndsAt`: what stands behind a numeral does not go on with it.
* `WrittenNumeral.eq_nil_of_isNumeral`: so no longer text is a numeral there.
-/

set_option autoImplicit false

namespace ReportPlan

open Pattern Text

/-! ## Written numerals -/

/-- A digit, digits and commas, and perhaps a point and more digits, all of them plain. -/
structure WrittenNumeral where
  first : Char
  whole : List Char
  /-- The digits behind the point; without them there is no point. -/
  places : List Char
  first_digit : isPlainDigit first = true
  whole_digits : ∀ c ∈ whole, isPlainDigit c = true ∨ c = ','
  places_digits : AllDigits places

namespace WrittenNumeral

variable (d : WrittenNumeral)

def fraction : List Char :=
  if d.places = [] then [] else '.' :: d.places

def text : List Char :=
  d.first :: (d.whole ++ d.fraction)

/-- The digits before the point, without commas. -/
def wholeDigits : List Char :=
  d.first :: d.whole.filter (· != ',')

/-- The number of the format that is nearest to what is written. -/
def nearest : Binary64 :=
  Binary64.ofRatio false (decimalValue (d.wholeDigits ++ d.places)) (powerOfTen d.places.length)

theorem allDigits_wholeDigits : AllDigits d.wholeDigits := by
  intro c hc
  simp only [wholeDigits, List.mem_cons, List.mem_filter, bne_iff_ne] at hc
  rcases hc with rfl | ⟨hc, hne⟩
  · exact d.first_digit
  · exact (d.whole_digits c hc).resolve_right hne

theorem filter_text : d.text.filter (· != ',') = d.wholeDigits ++ d.fraction := by
  have hfirst : d.first ≠ ',' := ne_of_isPlainDigit d.first_digit rfl
  have hplaces : d.places.filter (· != ',') = d.places :=
    List.filter_eq_self.2 fun c hc => bne_iff_ne.2 (ne_of_isPlainDigit (d.places_digits c hc) rfl)
  have hfraction : d.fraction.filter (· != ',') = d.fraction := by
    rw [fraction]
    split
    · rfl
    · rw [List.filter_cons_of_pos (by decide), hplaces]
  rw [text, List.filter_cons_of_pos (by simpa using hfirst), List.filter_append, hfraction,
    wholeDigits, List.cons_append]

theorem numeralValue?_text : Threshold.numeralValue? d.text = some d.nearest := by
  have hpoint : d.fraction.takeWhile (· != '.') = [] := by
    rw [fraction]
    split <;> rfl
  have hwhole : (d.wholeDigits ++ d.fraction).takeWhile (· != '.') = d.wholeDigits := by
    rw [List.takeWhile_append_of_pos fun c hc =>
      bne_iff_ne.2 (ne_of_isPlainDigit (d.allDigits_wholeDigits c hc) rfl), hpoint, List.append_nil]
  have hplaces : (d.wholeDigits ++ d.fraction).drop (d.wholeDigits.length + 1) = d.places := by
    rw [fraction]
    split
    · rename_i hnone
      simp [hnone]
    · simp
  have hread : readNat (d.wholeDigits ++ d.places) =
      some (decimalValue (d.wholeDigits ++ d.places)) :=
    readNat_eq (List.forall_mem_append.2 ⟨d.allDigits_wholeDigits, d.places_digits⟩)
      (List.cons_ne_nil _ _)
  simp only [Threshold.numeralValue?, filter_text, hwhole, hplaces, hread, Option.bind_eq_bind,
    Option.bind_some, Binary64.ofDecimal_neg]
  rfl

/-! ## Where a numeral ends -/

/-- What stands behind a numeral does not go on with it. -/
structure EndsAt (rest : List Char) : Prop where
  no_digit : rest.head?.any isDigit = false
  no_comma : d.places = [] → rest.head? ≠ some ','
  no_point : d.places = [] → ∀ c rest', rest = '.' :: c :: rest' → isDigit c = false

variable {d} {rest : List Char}

theorem isNumeralChar_of_mem_whole {c : Char} (hc : c ∈ d.whole) :
    Threshold.isNumeralChar c = true := by
  rw [Threshold.isNumeralChar, Bool.or_eq_true, decide_eq_true_eq]
  exact (d.whole_digits c hc).imp isDigit_of_isPlainDigit id

theorem isFraction_fraction : Threshold.IsFraction d.fraction := by
  rw [fraction]
  split
  · exact .inl rfl
  · rename_i hsome
    exact .inr ⟨d.places, rfl, hsome, fun c hc => isDigit_of_isPlainDigit (d.places_digits c hc)⟩

theorem isNumeral_text : Threshold.IsNumeral d.text :=
  ⟨d.first, d.whole, d.fraction, rfl, isDigit_of_isPlainDigit d.first_digit,
    fun _ hc => isNumeralChar_of_mem_whole hc, isFraction_fraction⟩

theorem head?_any_isNumeralChar (hrest : d.EndsAt rest) :
    (d.fraction ++ rest).head?.any Threshold.isNumeralChar = false := by
  rw [fraction]
  split
  · rename_i hnone
    have hdigit := hrest.no_digit
    have hcomma := hrest.no_comma hnone
    cases rest with
    | nil => rfl
    | cons c rest => simp_all [Threshold.isNumeralChar]
  · rfl

/-- The fraction goes on with nothing that stands behind. -/
theorem eq_nil_of_isFraction {x y : List Char} (hrest : d.EndsAt (x ++ y))
    (h : Threshold.IsFraction (d.fraction ++ x)) : x = [] := by
  rw [fraction] at h
  split at h
  · rename_i hnone
    rcases h with hnil | ⟨places, rfl, hne, hplaces⟩
    · exact hnil
    · obtain ⟨c, places, rfl⟩ := List.exists_cons_of_ne_nil hne
      have hdigit := hplaces c List.mem_cons_self
      rw [hrest.no_point hnone c (places ++ y) rfl] at hdigit
      cases hdigit
  · rcases h with hnil | ⟨places, hplaces, -, hdigits⟩
    · cases hnil
    · obtain ⟨-, rfl⟩ := List.cons.inj hplaces
      cases x with
      | nil => rfl
      | cons c x =>
        have hno : isDigit c = false := hrest.no_digit
        rw [hdigits c (by simp)] at hno
        cases hno

theorem eq_nil_of_isNumeral {x y : List Char} (hrest : d.EndsAt (x ++ y))
    (h : Threshold.IsNumeral (d.text ++ x)) : x = [] := by
  obtain ⟨c, whole, fraction, htext, -, hwhole, hfraction⟩ := h
  rw [text, List.cons_append, List.append_assoc] at htext
  have hhead : (d.fraction ++ x).head?.any Threshold.isNumeralChar = false := by
    have hlonger := head?_any_isNumeralChar hrest
    rw [← List.append_assoc] at hlonger
    exact head?_any_append_left hlonger
  obtain ⟨-, rfl⟩ := run_append_inj (fun _ => isNumeralChar_of_mem_whole) hwhole hhead
    hfraction.head?_any_isNumeralChar (List.cons.inj htext).2
  exact eq_nil_of_isFraction hrest hfraction

end WrittenNumeral

end ReportPlan
