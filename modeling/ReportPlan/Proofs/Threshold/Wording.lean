import ReportPlan.Proofs.Text.Runs
import ReportPlan.Proofs.Threshold.NextWord

/-! # How thresholds are worded

A threshold is a word for a metric, a comparison and a numeral, in this order, with little that may
stand between them.

* `IsComparator`, `IsNumeral`, `Metric.IsLink`, `Metric.IsSpace`: the pieces.
* `spells_comparator`, `spells_numeral`, and so on: the words and captures of the patterns.
* `exists_of_run_comparator`: a word that begins with `exceed` goes on as long as the rest matches.
* `exists_of_run_numeral`: a numeral goes on as long as it can.
* `Metric.WordedAt`: a threshold stands at a place of a text.
* `Metric.opening`: all of a threshold before the numeral, in the pieces `Metric.lead` and
  `Metric.spacing` around the comparison.
-/

set_option autoImplicit false

namespace ReportPlan

open Pattern Text

namespace Threshold

/-! ## Pieces -/

/-- A word or a sign for a comparison. -/
def IsComparator (s : List Char) : Prop :=
  (∃ w ∈ ["greater", "more", "above", "over"], s = w.toList) ∨
    (∃ ending : List Char, s = "exceed".toList ++ ending ∧ ∀ c ∈ ending, isWordChar c = true) ∨
    ∃ w ∈ [">", "<"], s = w.toList

/-- Only `exceed` may end in digits. -/
theorem IsComparator.not_digit_or_exceed {s : List Char} (h : IsComparator s) :
    (s ≠ [] ∧ s.getLast?.any isDigit = false) ∨
      ∃ ending : List Char, s = "exceed".toList ++ ending ∧ ∀ c ∈ ending, isWordChar c = true := by
  have hfixed : ∀ w ∈ ["greater", "more", "above", "over"] ++ [">", "<"],
      w.toList ≠ [] ∧ w.toList.getLast?.any isDigit = false := by decide
  rcases h with ⟨w, hw, rfl⟩ | hexceed | ⟨w, hw, rfl⟩
  · exact .inl (hfixed w (List.mem_append_left _ hw))
  · exact .inr hexceed
  · exact .inl (hfixed w (List.mem_append_right _ hw))

theorem isWordChar_of_isComparator {ending : List Char}
    (h : IsComparator ("exceed".toList ++ ending)) : ∀ c ∈ ending, isWordChar c = true := by
  have hexceed : ∀ w ∈ ["greater", "more", "above", "over"] ++ [">", "<"],
      "exceed".toList ++ ending ≠ w.toList := by simp
  rcases h with ⟨w, hw, heq⟩ | ⟨ending', heq, hending⟩ | ⟨w, hw, heq⟩
  · exact absurd heq (hexceed w (List.mem_append_left _ hw))
  · rwa [List.append_cancel_left heq]
  · exact absurd heq (hexceed w (List.mem_append_right _ hw))

/-- A comparison that goes on as a longer one is a word that begins with `exceed`. -/
theorem IsComparator.exceed_of_append {s x : List Char} (hs : IsComparator s)
    (h : IsComparator (s ++ x)) (hx : x ≠ []) :
    ∃ ending : List Char, s = "exceed".toList ++ ending ∧ ∀ c ∈ x, isWordChar c = true := by
  have hfixed : ∀ w ∈ ["greater", "more", "above", "over"] ++ [">", "<"],
      (∀ w' ∈ ["greater", "more", "above", "over"] ++ [">", "<"], w.toList ++ x ≠ w'.toList) ∧
        ∀ ending, w.toList ++ x ≠ "exceed".toList ++ ending := by
    simp [hx]
  have hlonger : ∀ w ∈ ["greater", "more", "above", "over"] ++ [">", "<"], s ≠ w.toList := by
    rintro w hw rfl
    rcases h with ⟨w', hw', heq⟩ | ⟨ending, heq, -⟩ | ⟨w', hw', heq⟩
    · exact (hfixed w hw).1 w' (List.mem_append_left _ hw') heq
    · exact (hfixed w hw).2 ending heq
    · exact (hfixed w hw).1 w' (List.mem_append_right _ hw') heq
  rcases hs with ⟨w, hw, rfl⟩ | ⟨ending, rfl, -⟩ | ⟨w, hw, rfl⟩
  · exact absurd rfl (hlonger w (List.mem_append_left _ hw))
  · rw [List.append_assoc] at h
    exact ⟨ending, rfl, fun c hc =>
      isWordChar_of_isComparator h c (List.mem_append_right _ hc)⟩
  · exact absurd rfl (hlonger w (List.mem_append_right _ hw))

/-- What may follow the word or the sign. -/
def IsThan (s : List Char) : Prop :=
  s = [] ∨ ∃ gap : List Char, s = gap ++ "than".toList ∧ gap ≠ [] ∧ ∀ c ∈ gap, isBlank c = true

/-- What may stand before a comparison. -/
def IsLink (s : List Char) : Prop :=
  ∃ blanks filler : List Char, s = blanks ++ filler ∧ (∀ c ∈ blanks, isBlank c = true) ∧
    (filler = [] ∨ ∃ w ∈ ["is", "of"], ∃ gap : List Char, filler = w.toList ++ gap ∧ gap ≠ [] ∧
      ∀ c ∈ gap, isBlank c = true)

/-- What may stand before an amount of money. -/
def IsCurrency (s : List Char) : Prop :=
  ∃ sign blanks : List Char, s = sign ++ blanks ∧
    (sign = [] ∨ ∃ w ∈ ["₦", "ngn"], sign = w.toList) ∧ ∀ c ∈ blanks, isBlank c = true

/-- Nothing, or a point and digits. -/
def IsFraction (s : List Char) : Prop :=
  s = [] ∨ ∃ places : List Char, s = '.' :: places ∧ places ≠ [] ∧ ∀ d ∈ places, isDigit d = true

theorem IsFraction.head?_any_isNumeralChar {s : List Char} (h : IsFraction s) :
    s.head?.any isNumeralChar = false := by
  have hpoint : isNumeralChar '.' = false := by decide
  rcases h with rfl | ⟨places, rfl, -⟩
  · rfl
  · exact hpoint

/-- A digit, digits and commas, and perhaps a point and more digits. -/
def IsNumeral (s : List Char) : Prop :=
  ∃ c whole fraction, s = c :: (whole ++ fraction) ∧ isDigit c = true ∧
    (∀ d ∈ whole, isNumeralChar d = true) ∧ IsFraction fraction

/-- The word or the sign of a comparison. -/
def comparator : Pattern Part :=
  oneOfWords ["greater", "more", "above", "over"] |||
    (Pattern.word "exceed" ++ many isWordChar) ||| oneOfWords [">", "<"]

section Spelled

variable {before word after : List Char} {earlier captures : Captures Part}

theorem spells_comparator :
    comparator.Spells before word after earlier captures ↔
      IsComparator word ∧ captures = earlier := by
  simp only [comparator, spells_or, spells_oneOfWords, spells_word_append, spells_many]
  constructor
  · rintro ((⟨hword, rfl⟩ | ⟨ending, rfl, hending, rfl⟩) | ⟨hsign, rfl⟩)
    · exact ⟨.inl hword, rfl⟩
    · exact ⟨.inr (.inl ⟨ending, rfl, hending⟩), rfl⟩
    · exact ⟨.inr (.inr hsign), rfl⟩
  · rintro ⟨hword | ⟨ending, rfl, hending⟩ | hsign, rfl⟩
    · exact .inl (.inl ⟨hword, rfl⟩)
    · exact .inl (.inr ⟨ending, rfl, hending, rfl⟩)
    · exact .inr ⟨hsign, rfl⟩

theorem spells_than :
    (maybe (gap ++ Pattern.word "than")).Spells before word after earlier captures ↔
      IsThan word ∧ captures = earlier := by
  simp only [Pattern.gap, spells_maybe, spells_several_append, spells_word]
  constructor
  · rintro (⟨gap, _, rfl, hgap, rfl, rfl⟩ | ⟨rfl, rfl⟩)
    · exact ⟨.inr ⟨gap, rfl, hgap⟩, rfl⟩
    · exact ⟨.inl rfl, rfl⟩
  · rintro ⟨rfl | ⟨gap, rfl, hgap⟩, rfl⟩
    · exact .inr ⟨rfl, rfl⟩
    · exact .inl ⟨gap, _, rfl, hgap, rfl, rfl⟩

theorem spells_link :
    link.Spells before word after earlier captures ↔ IsLink word ∧ captures = earlier := by
  simp only [link, Pattern.blanks, Pattern.gap, spells_many_append, spells_or,
    spells_word_append, spells_maybe, spells_several]
  constructor
  · rintro ⟨blanks, filler, rfl, hblanks,
      (⟨gap, rfl, hgap, rfl⟩ | ⟨gap, rfl, hgap, rfl⟩) | ⟨rfl, rfl⟩⟩
    · exact ⟨⟨blanks, _, rfl, hblanks, .inr ⟨"is", by simp, gap, rfl, hgap⟩⟩, rfl⟩
    · exact ⟨⟨blanks, _, rfl, hblanks, .inr ⟨"of", by simp, gap, rfl, hgap⟩⟩, rfl⟩
    · exact ⟨⟨blanks, _, rfl, hblanks, .inl rfl⟩, rfl⟩
  · rintro ⟨⟨blanks, filler, rfl, hblanks, hfiller⟩, rfl⟩
    refine ⟨blanks, filler, rfl, hblanks, ?_⟩
    rcases hfiller with rfl | ⟨w, hw, gap, rfl, hgap⟩
    · exact .inr ⟨rfl, rfl⟩
    · simp only [List.mem_cons, List.not_mem_nil, or_false] at hw
      rcases hw with rfl | rfl
      · exact .inl (.inl ⟨gap, rfl, hgap, rfl⟩)
      · exact .inl (.inr ⟨gap, rfl, hgap, rfl⟩)

theorem spells_currency :
    currency.Spells before word after earlier captures ↔ IsCurrency word ∧ captures = earlier := by
  simp only [currency, Pattern.blanks, spells_append, spells_oneOfWords, spells_many, spells_maybe]
  constructor
  · rintro ⟨sign, blanks, between, rfl, ⟨hsign, rfl⟩ | ⟨rfl, rfl⟩, hblanks, rfl⟩
    · exact ⟨⟨sign, blanks, rfl, .inr hsign, hblanks⟩, rfl⟩
    · exact ⟨⟨[], blanks, rfl, .inl rfl, hblanks⟩, rfl⟩
  · rintro ⟨⟨sign, blanks, rfl, hsign, hblanks⟩, rfl⟩
    refine ⟨sign, blanks, _, rfl, ?_, hblanks, rfl⟩
    rcases hsign with rfl | hsign
    · exact .inr ⟨rfl, rfl⟩
    · exact .inl ⟨hsign, rfl⟩

theorem spells_numeral :
    numeral.Spells before word after earlier captures ↔
      IsNumeral word ∧ captures = (.numeral, ⟨before.length, word⟩) :: earlier := by
  simp only [numeral, digitRun, spells_capture, spells_append_assoc, spells_one_append,
    spells_many_append, spells_word_append, spells_maybe, spells_several]
  constructor
  · rintro ⟨between, ⟨c, _, rfl, hc, whole, fraction, rfl, hwhole, hfraction⟩, rfl⟩
    rcases hfraction with ⟨places, rfl, hplaces, rfl⟩ | ⟨rfl, rfl⟩
    · exact ⟨⟨c, whole, _, rfl, hc, hwhole, .inr ⟨places, rfl, hplaces⟩⟩, rfl⟩
    · exact ⟨⟨c, whole, _, rfl, hc, hwhole, .inl rfl⟩, rfl⟩
  · rintro ⟨⟨c, whole, fraction, rfl, hc, hwhole, hfraction⟩, rfl⟩
    refine ⟨earlier, ⟨c, _, rfl, hc, whole, fraction, rfl, hwhole, ?_⟩, rfl⟩
    rcases hfraction with rfl | ⟨places, rfl, hplaces⟩
    · exact .inr ⟨rfl, rfl⟩
    · exact .inl ⟨places, rfl, hplaces, rfl⟩

section Greedy

variable {α : Type} {a : α} {k : Cursor → Captures Part → Option α}

theorem exists_of_run_comparator (h : comparator.run ⟨before, word⟩ earlier k = some a) :
    ∃ c rest, word = c ++ rest ∧ IsComparator c ∧ k ⟨c.reverse ++ before, rest⟩ earlier = some a ∧
      ∀ ending, c = "exceed".toList ++ ending → ∀ x y, rest = x ++ y → x ≠ [] →
        (∀ e ∈ x, isWordChar e = true) →
          k ⟨x.reverse ++ (c.reverse ++ before), y⟩ earlier = none := by
  have hother : ∀ w ∈ ["greater", "more", "above", "over"] ++ [">", "<"], ∀ ending,
      w.toList ≠ "exceed".toList ++ ending := by simp
  rw [comparator, run_or, run_or, Option.orElse_eq_or, Option.orElse_eq_or, Option.or_eq_some_iff,
    Option.or_eq_some_iff] at h
  rcases h with (h | ⟨-, h⟩) | ⟨-, h⟩
  · obtain ⟨w, hw, rest, rfl, hk⟩ := exists_of_run_oneOfWords h
    exact ⟨_, rest, rfl, .inl ⟨w, hw, rfl⟩, hk, fun ending hc =>
      absurd hc (hother w (List.mem_append_left _ hw) ending)⟩
  · rw [run_append] at h
    obtain ⟨_, s, _, rfl, ⟨rfl, rfl⟩, h⟩ := exists_spells_of_run h
    obtain ⟨ending, rest, rfl, hending, hk, hlast⟩ := exists_last_of_runMany h
    refine ⟨"exceed".toList ++ ending, rest, by simp, .inr (.inl ⟨ending, rfl, hending⟩),
      by simpa [Cursor.advance] using hk, fun _ _ => ?_⟩
    simpa [Cursor.advance] using hlast
  · obtain ⟨w, hw, rest, rfl, hk⟩ := exists_of_run_oneOfWords h
    exact ⟨_, rest, rfl, .inr (.inr ⟨w, hw, rfl⟩), hk, fun ending hc =>
      absurd hc (hother w (List.mem_append_right _ hw) ending)⟩

/-- A fraction is as long as possible if nothing behind it can fail. -/
theorem exists_of_run_fraction (htotal : ∀ cursor captures, (k cursor captures).isSome = true)
    (h : (maybe (Pattern.word "." ++ digitRun)).run ⟨before, word⟩ earlier k = some a) :
    ∃ fraction rest : List Char, word = fraction ++ rest ∧ IsFraction fraction ∧
      (∀ x y, rest = x ++ y → IsFraction (fraction ++ x) → x = []) ∧
      k ⟨fraction.reverse ++ before, rest⟩ earlier = some a := by
  rw [maybe, run_or, run_append, run_nothing, Option.orElse_eq_or, Option.or_eq_some_iff] at h
  rcases h with h | ⟨hnone, h⟩
  · obtain ⟨_, _, _, rfl, ⟨rfl, rfl⟩, h⟩ := exists_spells_of_run h
    obtain ⟨places, rest, rfl, hplaces, hrest, h⟩ :=
      exists_of_run_several (fun cursor => htotal cursor _) h
    refine ⟨'.' :: places, rest, rfl, .inr ⟨places, rfl, hplaces⟩, ?_, by simpa using h⟩
    rintro x y rfl (hnil | ⟨places', hlonger, -, hdigits⟩)
    · cases hnil
    · obtain ⟨-, rfl⟩ := List.cons.inj hlonger
      cases x with
      | nil => rfl
      | cons d x =>
        have hd : isDigit d = true := hdigits d (by simp)
        rw [List.cons_append, List.head?_cons, Option.any_some, hd] at hrest
        cases hrest
  · refine ⟨[], word, rfl, .inl rfl, ?_, h⟩
    rintro x y rfl (hnil | ⟨places, rfl, hplaces⟩)
    · exact hnil
    · -- a point with digits behind it would have been taken
      have hspelled : (Pattern.word "." ++ digitRun).Spells before ('.' :: places) y earlier
          earlier := by
        simp only [digitRun, spells_word_append, spells_several]
        exact ⟨places, rfl, hplaces, trivial⟩
      have hsome := isSome_run_of_spells hspelled (htotal _ _)
      rw [run_append, hnone] at hsome
      cases hsome

theorem exists_of_run_numeral (htotal : ∀ cursor captures, (k cursor captures).isSome = true)
    (h : numeral.run ⟨before, word⟩ earlier k = some a) :
    ∃ s rest : List Char, word = s ++ rest ∧ IsNumeral s ∧
      (∀ x y, rest = x ++ y → IsNumeral (s ++ x) → x = []) ∧
      k ⟨s.reverse ++ before, rest⟩ ((.numeral, ⟨before.length, s⟩) :: earlier) = some a := by
  cases word with
  | nil => cases h
  | cons c word =>
    simp only [numeral, run, run_append, Option.ite_none_right_eq_some] at h
    obtain ⟨hc, h⟩ := h
    rw [runMany_of_total (fun cursor => by simp [maybe, htotal])] at h
    have hstop := head?_any_dropWhile isNumeralChar word
    obtain ⟨fraction, rest, (hsplit : word.dropWhile isNumeralChar = fraction ++ rest), hfraction,
      hlongest, h⟩ := exists_of_run_fraction (fun cursor _ => htotal cursor _) h
    have hword : c :: word = (c :: (word.takeWhile isNumeralChar ++ fraction)) ++ rest := by
      rw [List.cons_append, List.append_assoc, ← hsplit, List.takeWhile_append_dropWhile]
    have hback : fraction.reverse ++ ((word.takeWhile isNumeralChar).reverse ++ c :: before) =
        (c :: (word.takeWhile isNumeralChar ++ fraction)).reverse ++ before := by simp
    refine ⟨_, rest, hword,
      ⟨c, _, fraction, rfl, hc, List.all_eq_true.1 List.all_takeWhile, hfraction⟩, ?_, ?_⟩
    · -- the digits and commas of a longer numeral are the same ones, so its fraction is longer
      rintro x y rfl ⟨c', whole, fraction', htext, -, hwhole, hfraction'⟩
      rw [List.cons_append, List.append_assoc] at htext
      have hhead : (fraction ++ x).head?.any isNumeralChar = false := by
        rw [hsplit, ← List.append_assoc] at hstop
        exact head?_any_append_left hstop
      obtain ⟨-, rfl⟩ := run_append_inj (List.all_eq_true.1 List.all_takeWhile) hwhole hhead
        hfraction'.head?_any_isNumeralChar (List.cons.inj htext).2
      exact hlongest x y rfl hfraction'
    · -- what is captured is the text between the two cursors
      rw [← h, ← hback, ← Cursor.capture_append, ← hword, ← hback]
      rfl

end Greedy

end Spelled
end Threshold

/-! ## Thresholds in a text -/

open Threshold

namespace Metric

/-- The words for a metric. -/
def words : Metric → List String
  | amount => ["volume", "amount"]
  | exposure => ["exposure"]
  | utilization => ["utilisation", "utilization"]

/-- What may stand between a metric and a comparison. Money may be in the plural. -/
def IsLink (metric : Metric) (s : List Char) : Prop :=
  ∃ plural link, s = plural ++ link ∧ (plural = [] ∨ metric.isScaled = true ∧ plural = ['s']) ∧
    Threshold.IsLink link

/-- What may stand between a comparison and a numeral. Money may have a currency. -/
def IsSpace (metric : Metric) (s : List Char) : Prop :=
  ∃ than blanks currency, s = than ++ (blanks ++ currency) ∧ IsThan than ∧
    (∀ c ∈ blanks, isBlank c = true) ∧
    (currency = [] ∨ metric.isScaled = true ∧ IsCurrency currency)

theorem IsSpace.not_isDigit {metric : Metric} {space : List Char} (h : metric.IsSpace space) :
    ∀ c ∈ space, isDigit c = false := by
  have hblank : ∀ {s : List Char}, (∀ c ∈ s, isBlank c = true) → ∀ c ∈ s, isDigit c = false :=
    fun hs c hc => isDigit_of_isBlank (hs c hc)
  have hwords : ∀ w ∈ ["than", "₦", "ngn"], ∀ c ∈ w.toList, isDigit c = false := by
    have hall : ∀ w ∈ ["than", "₦", "ngn"], (w.toList.all fun c => !isDigit c) = true := by decide
    intro w hw c hc
    simpa using List.all_eq_true.1 (hall w hw) c hc
  obtain ⟨than, blanks, currency, rfl, hthan, hblanks, hcurrency⟩ := h
  refine List.forall_mem_append.2 ⟨?_, List.forall_mem_append.2 ⟨hblank hblanks, ?_⟩⟩
  · rcases hthan with rfl | ⟨gap, rfl, -, hgap⟩
    · exact List.forall_mem_nil _
    · exact List.forall_mem_append.2 ⟨hblank hgap, hwords "than" List.mem_cons_self⟩
  · rcases hcurrency with rfl | ⟨-, sign, gap, rfl, hsign, hgap⟩
    · exact List.forall_mem_nil _
    · refine List.forall_mem_append.2 ⟨?_, hblank hgap⟩
      rcases hsign with rfl | ⟨w, hw, rfl⟩
      · exact List.forall_mem_nil _
      · exact hwords w (List.mem_cons_of_mem _ hw)

/-- Behind the characters `before`, a text has a word for a metric, a comparison and a numeral. -/
def WordedAt (metric : Metric) (text before comparator numeral : List Char) : Prop :=
  ∃ w ∈ metric.words, ∃ link space after,
    text = before ++ (w.toList ++ (link ++ (comparator ++ (space ++ (numeral ++ after))))) ∧
    metric.IsLink link ∧ IsComparator comparator ∧ metric.IsSpace space ∧ IsNumeral numeral

/-! The pattern of a metric, up to the numeral and behind it. -/

/-- A pattern for amounts of money, which plain percentages do without. -/
def onMoney (metric : Metric) (p : Pattern Part) : Pattern Part :=
  if metric.isScaled then p else nothing

/-- The word for a metric. -/
def naming : Metric → Pattern Part
  | utilization => Pattern.word "utili" ++ one (fun c => c = 's' || c = 'z') ++ Pattern.word "ation"
  | metric => oneOfWords metric.words

/-- All of a threshold before the numeral. -/
def opening (metric : Metric) : Pattern Part :=
  metric.naming ++ (metric.onMoney (maybe (Pattern.word "s")) ++
    (link ++ (comparison ++ (blanks ++ metric.onMoney currency))))

/-- The words for a metric and what may stand behind them. -/
def lead (metric : Metric) : Pattern Part :=
  metric.naming ++ (metric.onMoney (maybe (Pattern.word "s")) ++ link)

/-- All that may stand between a comparison and a numeral. -/
def spacing (metric : Metric) : Pattern Part :=
  maybe (gap ++ Pattern.word "than") ++ (blanks ++ metric.onMoney currency)

theorem run_opening_eq {α : Type} (metric : Metric) (cursor : Cursor) (captures : Captures Part)
    (k : Cursor → Captures Part → Option α) :
    metric.opening.run cursor captures k =
      metric.lead.run cursor captures fun cursor captures =>
        (capture Part.comparator comparator).run cursor captures fun cursor captures =>
          metric.spacing.run cursor captures k := rfl

theorem run_pattern {α : Type} (metric : Metric) (cursor : Cursor) (captures : Captures Part)
    (k : Cursor → Captures Part → Option α) :
    metric.pattern.run cursor captures k =
      metric.opening.run cursor captures fun cursor captures =>
        numeral.run cursor captures fun cursor captures =>
          (metric.onMoney magnitude).run cursor captures k := by
  cases metric <;> rfl

section Opening

variable {metric : Metric} {before word after : List Char} {earlier captures : Captures Part}

theorem spells_onMoney {p : Pattern Part} {P : List Char → Prop}
    (hp : p.Spells before word after earlier captures ↔
      (word = [] ∨ P word) ∧ captures = earlier) :
    (metric.onMoney p).Spells before word after earlier captures ↔
      (word = [] ∨ metric.isScaled = true ∧ P word) ∧ captures = earlier := by
  rw [onMoney]
  cases metric.isScaled with
  | true => simpa using hp
  | false => simp [Spells]

theorem spells_naming :
    metric.naming.Spells before word after earlier captures ↔
      (∃ w ∈ metric.words, word = w.toList) ∧ captures = earlier := by
  cases metric with
  | amount => exact spells_oneOfWords
  | exposure => exact spells_oneOfWords
  | utilization =>
    simp only [naming, spells_append_assoc, spells_word_append, spells_one_append, spells_word,
      Bool.or_eq_true, decide_eq_true_eq]
    constructor
    · rintro ⟨_, rfl, c, _, rfl, rfl | rfl, rfl, rfl⟩
      · exact ⟨⟨"utilisation", by simp [words], rfl⟩, rfl⟩
      · exact ⟨⟨"utilization", by simp [words], rfl⟩, rfl⟩
    · rintro ⟨⟨w, hw, rfl⟩, rfl⟩
      simp only [words, List.mem_cons, List.not_mem_nil, or_false] at hw
      rcases hw with rfl | rfl
      · exact ⟨_, rfl, 's', _, rfl, .inl rfl, rfl, rfl⟩
      · exact ⟨_, rfl, 'z', _, rfl, .inr rfl, rfl, rfl⟩

theorem spells_plural :
    (metric.onMoney (maybe (Pattern.word "s"))).Spells before word after earlier captures ↔
      (word = [] ∨ metric.isScaled = true ∧ word = ['s']) ∧ captures = earlier := by
  refine spells_onMoney (P := (· = ['s'])) ?_
  rw [spells_maybe, spells_word, or_comm, or_and_right]
  rfl

theorem spells_onCurrency :
    (metric.onMoney currency).Spells before word after earlier captures ↔
      (word = [] ∨ metric.isScaled = true ∧ IsCurrency word) ∧ captures = earlier := by
  refine spells_onMoney ?_
  rw [spells_currency, or_iff_right_of_imp]
  rintro rfl
  exact ⟨[], [], rfl, .inl rfl, by simp⟩

theorem spells_lead :
    metric.lead.Spells before word after earlier captures ↔
      (∃ w ∈ metric.words, ∃ link, word = w.toList ++ link ∧ metric.IsLink link) ∧
        captures = earlier := by
  constructor
  · rintro ⟨_, _, _, rfl, hspelled, plural, link, _, rfl, hspelled', h⟩
    obtain ⟨⟨w, hw, rfl⟩, rfl⟩ := spells_naming.1 hspelled
    obtain ⟨hplural, rfl⟩ := spells_plural.1 hspelled'
    obtain ⟨hlink, rfl⟩ := spells_link.1 h
    exact ⟨⟨w, hw, plural ++ link, rfl, plural, link, rfl, hplural, hlink⟩, rfl⟩
  · rintro ⟨⟨w, hw, _, rfl, plural, link, rfl, hplural, hlink⟩, rfl⟩
    exact ⟨w.toList, plural ++ link, _, rfl, spells_naming.2 ⟨⟨w, hw, rfl⟩, rfl⟩, plural, link, _,
      rfl, spells_plural.2 ⟨hplural, rfl⟩, spells_link.2 ⟨hlink, rfl⟩⟩

theorem spells_spacing :
    metric.spacing.Spells before word after earlier captures ↔
      metric.IsSpace word ∧ captures = earlier := by
  constructor
  · rintro ⟨than, _, _, rfl, hspelled, blanks, currency, _, rfl, hspelled', h⟩
    obtain ⟨hthan, rfl⟩ := spells_than.1 hspelled
    obtain ⟨hblanks, rfl⟩ := spells_many.1 hspelled'
    obtain ⟨hcurrency, rfl⟩ := spells_onCurrency.1 h
    exact ⟨⟨than, blanks, currency, rfl, hthan, hblanks, hcurrency⟩, rfl⟩
  · rintro ⟨⟨than, blanks, currency, rfl, hthan, hblanks, hcurrency⟩, rfl⟩
    exact ⟨than, blanks ++ currency, _, rfl, spells_than.2 ⟨hthan, rfl⟩, blanks, currency, _, rfl,
      spells_many.2 ⟨hblanks, rfl⟩, spells_onCurrency.2 ⟨hcurrency, rfl⟩⟩

end Opening

/-! What is captured behind the numeral. -/

theorem exists_run_onMoney_magnitude (metric : Metric) (before rest : List Char)
    (earlier : Captures Part) {α : Type} {k : Cursor → Captures Part → Option α}
    (htotal : ∀ cursor captures, (k cursor captures).isSome = true) :
    ∃ cursor captures, (metric.onMoney magnitude).run ⟨before, rest⟩ earlier k = k cursor captures ∧
      (∀ part, part ≠ .suffix → captures.lookup part = earlier.lookup part) ∧
      (earlier.lookup .suffix = none →
        (captures.lookup .suffix).map (fun c => String.ofList c.text) = metric.suffix? rest) := by
  rw [onMoney, suffix?]
  cases metric.isScaled with
  | false =>
    refine ⟨_, earlier, rfl, fun _ _ => rfl, fun hnew => ?_⟩
    simp [hnew]
  | true =>
    obtain ⟨cursor, captures, hrun, h⟩ :=
      @exists_run_magnitude before rest earlier α k htotal
    refine ⟨cursor, captures, hrun, ?_⟩
    rcases h with ⟨hnext, start, rfl⟩ | ⟨hnext, rfl⟩
    · refine ⟨fun part hpart => ?_, fun _ => ?_⟩
      · rw [List.lookup_cons, beq_false_of_ne hpart]
      · rw [if_pos ⟨rfl, hnext⟩, List.lookup_cons_self, Option.map_some, String.ofList_toList]
    · refine ⟨fun _ _ => rfl, fun hnew => ?_⟩
      rw [if_neg (fun h => hnext h.2), hnew]
      rfl

end Metric
end ReportPlan
