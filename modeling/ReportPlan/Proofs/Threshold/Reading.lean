import ReportPlan.Proofs.Threshold.Wording

/-! # How thresholds are read

The threshold of a metric is looked for from left to right, and the place of its word counts, not
what stands before that. Of all comparisons that a numeral follows there the longest one is taken,
and the numeral is taken as a whole. The filter is made of these two, and of the word behind them.

* `Metric.Reading`: a threshold in a text, cut into its pieces.
* `Metric.exists_reading_of_matchesAt`: where the pattern of a metric matches, it is read.
* `Metric.exists_matchesAt_of_wordedAt`: the pattern matches wherever a threshold is worded.
* `Metric.Reading.IsFirst`, `exists_reading_of_find?`: a filter is made of the reading that stands
  first.
* `numeralCapture?`: the numeral that a threshold is read off, with its place.
-/

set_option autoImplicit false

namespace ReportPlan

open Pattern Text Threshold

/-! ## Numerals and comparisons that cannot be longer -/

namespace Threshold

theorem IsNumeral.concat {s : List Char} (h : IsNumeral s) {d : Char} (hd : isDigit d = true) :
    IsNumeral (s ++ [d]) := by
  obtain ⟨c, whole, fraction, rfl, hc, hwhole, hfraction⟩ := h
  rcases hfraction with rfl | ⟨places, rfl, -, hplaces⟩
  · have hmember : isNumeralChar d = true := by simp [isNumeralChar, hd]
    exact ⟨c, whole ++ [d], [], by simp, hc,
      List.forall_mem_append.2 ⟨hwhole, List.forall_mem_singleton.2 hmember⟩, .inl rfl⟩
  · exact ⟨c, whole, '.' :: (places ++ [d]), by simp, hc, hwhole, .inr ⟨_, rfl, by simp,
      List.forall_mem_append.2 ⟨hplaces, List.forall_mem_singleton.2 hd⟩⟩⟩

/-- A word that begins with `exceed` goes on as long as there is a digit behind it: in the rest of
the word, only the first character may be a digit. -/
def LeavesOneDigit (comparator rest : List Char) : Prop :=
  ∀ ending, comparator = "exceed".toList ++ ending →
    ∀ d ∈ (rest.takeWhile isWordChar).tail, isDigit d = false

end Threshold

namespace Metric

/-- A numeral comes next in a text, or nothing but a space before it. -/
def NumeralFollows (metric : Metric) (rest : List Char) : Prop :=
  ∃ space numeral after : List Char, rest = space ++ (numeral ++ after) ∧ metric.IsSpace space ∧
    IsNumeral numeral

/-- A threshold in a text. No numeral would follow a longer comparison, and the numeral goes no
further either. -/
structure Reading (metric : Metric) (text : List Char) where
  before : List Char
  word : String
  link : List Char
  comparator : List Char
  space : List Char
  numeral : List Char
  after : List Char
  text_eq : text =
    before ++ (word.toList ++ (link ++ (comparator ++ (space ++ (numeral ++ after)))))
  word_mem : word ∈ metric.words
  isLink : metric.IsLink link
  isComparator : IsComparator comparator
  isSpace : metric.IsSpace space
  isNumeral : IsNumeral numeral
  comparator_longest : ∀ x y, space ++ (numeral ++ after) = x ++ y →
    IsComparator (comparator ++ x) → metric.NumeralFollows y → x = []
  numeral_longest : ∀ x y, after = x ++ y → IsNumeral (numeral ++ x) → x = []

namespace Reading

variable {metric : Metric} {text : List Char} (r : metric.Reading text)

/-- The part of the text up to the comparison. -/
def front : List Char :=
  r.before ++ (r.word.toList ++ r.link)

theorem text_eq_front :
    text = (r.front ++ (r.comparator ++ r.space)) ++ (r.numeral ++ r.after) := by
  simp [r.text_eq, front]

theorem wordedAt : metric.WordedAt text r.before r.comparator r.numeral :=
  ⟨r.word, r.word_mem, r.link, r.space, r.after, r.text_eq, r.isLink, r.isComparator, r.isSpace,
    r.isNumeral⟩

theorem head?_any_isDigit_after : r.after.head?.any isDigit = false := by
  rw [← Bool.not_eq_true, Option.any_eq_true]
  rintro ⟨d, hd, hdigit⟩
  obtain ⟨rest, hrest⟩ := List.head?_eq_some_iff.1 hd
  cases r.numeral_longest [d] rest hrest (r.isNumeral.concat hdigit)

/-- The comparison leaves no digits that it can take but the one with which the numeral begins. -/
theorem leavesOneDigit : LeavesOneDigit r.comparator (r.space ++ (r.numeral ++ r.after)) := by
  intro ending hexceed d hd
  rw [← Bool.not_eq_true]
  intro hdigit
  -- a numeral that begins at `d` would follow a longer comparison
  obtain ⟨x, y, hsplit, hne, hx⟩ := exists_split_of_mem_tail_takeWhile hd
  have hending : ∀ c ∈ ending, isWordChar c = true :=
    isWordChar_of_isComparator (hexceed ▸ r.isComparator)
  have hlonger : IsComparator (r.comparator ++ x) :=
    .inr (.inl ⟨ending ++ x, by rw [hexceed, List.append_assoc],
      List.forall_mem_append.2 ⟨hending, hx⟩⟩)
  have hfollows : metric.NumeralFollows (d :: y) :=
    ⟨[], [d], y, rfl, ⟨[], [], [], rfl, .inl rfl, List.forall_mem_nil _, .inl rfl⟩,
      ⟨d, [], [], rfl, hdigit, List.forall_mem_nil _, .inl rfl⟩⟩
  exact hne (r.comparator_longest x (d :: y) hsplit hlonger hfollows)

end Reading

/-! ## Matches -/

/-- All behind the numeral may be left out. -/
theorem isSome_run_onMoney_magnitude {α : Type} {metric : Metric}
    {k : Cursor → Captures Part → Option α}
    (htotal : ∀ cursor captures, (k cursor captures).isSome = true) (cursor : Cursor)
    (captures : Captures Part) :
    ((metric.onMoney magnitude).run cursor captures k).isSome = true := by
  rw [onMoney]
  cases metric.isScaled with
  | true =>
    rw [if_pos rfl, magnitude, maybe, run_or, Option.orElse_eq_or, Option.isSome_or, run_nothing,
      htotal, Bool.or_true]
  | false => exact htotal cursor captures

/-- Behind a comparison, a numeral is matched wherever a digit begins it. -/
theorem isSome_run_spacing {α : Type} {metric : Metric} {k : Cursor → Captures Part → Option α}
    (htotal : ∀ cursor captures, (k cursor captures).isSome = true) {rest : List Char}
    (h : metric.NumeralFollows rest) (before : List Char) (captures : Captures Part) :
    (metric.spacing.run ⟨before, rest⟩ captures fun cursor captures =>
      Threshold.numeral.run cursor captures fun cursor captures =>
        (metric.onMoney magnitude).run cursor captures k).isSome = true := by
  obtain ⟨space, numeral, after, rfl, hspace, hnumeral⟩ := h
  exact isSome_run_of_spells (spells_spacing.2 ⟨hspace, rfl⟩)
    (isSome_run_of_spells (spells_numeral.2 ⟨hnumeral, rfl⟩)
      (isSome_run_onMoney_magnitude htotal _ _))

/-- Where the pattern of a metric matches, a threshold is read. Its comparison and its numeral are
captured with their places, and the word behind them if it is one for a magnitude. -/
theorem exists_reading_of_matchesAt {metric : Metric} {text before : List Char}
    {captures : Captures Part} (h : metric.pattern.MatchesAt text before captures) :
    ∃ r : metric.Reading text, r.before = before ∧
      captures.lookup .comparator = some ⟨r.front.length, r.comparator⟩ ∧
      captures.lookup .numeral =
        some ⟨(r.front ++ (r.comparator ++ r.space)).length, r.numeral⟩ ∧
      (captures.lookup .suffix).map (fun c => String.ofList c.text) = metric.suffix? r.after := by
  obtain ⟨rest, rfl, hm⟩ := h
  rw [matchAt?, run_pattern, run_opening_eq] at hm
  obtain ⟨_, _, _, rfl, hlead, hrun⟩ := exists_spells_of_run hm
  obtain ⟨⟨w, hw, link, rfl, hlink⟩, rfl⟩ := spells_lead.1 hlead
  obtain ⟨comparator, _, rfl, hcomparator, hrun, hlast⟩ := exists_of_run_comparator hrun
  rw [Cursor.capture_append] at hrun
  obtain ⟨space, _, _, rfl, hspelled, hrun⟩ := exists_spells_of_run hrun
  obtain ⟨hspace, rfl⟩ := spells_spacing.1 hspelled
  obtain ⟨numeral, after, rfl, hnumeral, hwhole, hrun⟩ :=
    exists_of_run_numeral (isSome_run_onMoney_magnitude fun _ _ => rfl) hrun
  let found : Cursor → Captures Part → Option (Match Part) := fun _ captures =>
    some ⟨before.reverse.length, captures⟩
  obtain ⟨_, captures', hrun', hothers, hsuffix⟩ :=
    metric.exists_run_onMoney_magnitude _ after _ (k := found) fun _ _ => rfl
  obtain ⟨-, rfl⟩ := Match.mk.inj (Option.some.inj (hrun'.symm.trans hrun))
  refine ⟨⟨before, w, link, comparator, space, numeral, after, by simp, hw, hlink, hcomparator,
    hspace, hnumeral, ?_, hwhole⟩, rfl, ?_, ?_, hsuffix rfl⟩
  · intro x y hsplit hlonger hfollows
    refine Decidable.byContradiction fun hne => ?_
    obtain ⟨ending, rfl, hx⟩ := hcomparator.exceed_of_append hlonger hne
    exact Option.ne_none_iff_isSome.2 (isSome_run_spacing (fun _ _ => rfl) hfollows _ _)
      (hlast ending rfl x y hsplit hne hx)
  · have hother : (Part.comparator == Part.numeral) = false := by decide
    rw [hothers _ (by decide)]
    simp [List.lookup_cons, hother, Reading.front]
    omega
  · rw [hothers _ (by decide)]
    simp [Reading.front]
    omega

theorem exists_matchesAt_of_wordedAt {metric : Metric}
    {text before comparator numeral : List Char}
    (h : metric.WordedAt text before comparator numeral) :
    ∃ captures, metric.pattern.MatchesAt text before captures := by
  obtain ⟨w, hw, link, space, after, rfl, hlink, hcomparator, hspace, hnumeral⟩ := h
  have hmatch : (metric.pattern.matchAt? ⟨before.reverse,
      (w.toList ++ link) ++ (comparator ++ (space ++ (numeral ++ after)))⟩).isSome = true := by
    rw [matchAt?, run_pattern, run_opening_eq]
    refine isSome_run_of_spells (spells_lead.2 ⟨⟨w, hw, link, rfl, hlink⟩, rfl⟩) ?_
    refine isSome_run_of_spells ⟨_, spells_comparator.2 ⟨hcomparator, rfl⟩, rfl⟩ ?_
    exact isSome_run_spacing (fun _ _ => rfl) ⟨space, numeral, after, rfl, hspace, hnumeral⟩ _ _
  obtain ⟨m, hm⟩ := Option.isSome_iff_exists.1 hmatch
  exact ⟨_, by simpa using (matchesAt_of_matchAt? hm).1⟩

/-! ## The first reading -/

namespace Reading

variable {metric : Metric} {text : List Char}

/-- No threshold of the metric is worded further left. -/
def IsFirst (r : metric.Reading text) : Prop :=
  ∀ before comparator numeral, metric.WordedAt text before comparator numeral →
    r.before.length ≤ before.length

/-- The number that is read, times what the next word stands for, unless that is too large. -/
def value? (r : metric.Reading text) : Option Binary64 := do
  let x ← numeralValue? r.numeral
  let y := x.mul (.ofNat false (metric.factor r.after))
  if y.isFinite then some y else none

theorem value?_of_numeralValue? {r : metric.Reading text} {x : Binary64}
    (h : numeralValue? r.numeral = some x) :
    r.value? = if (x.mul (.ofNat false (metric.factor r.after))).isFinite then
      some (x.mul (.ofNat false (metric.factor r.after))) else none := by
  rw [value?, h]
  rfl

/-- The filter for a value. Only `<` compares downwards. -/
def filterOf (r : metric.Reading text) (x : Binary64) : Filter :=
  if r.comparator = ['<'] then .lessThan metric.field x else .greaterThan metric.field x

end Reading
end Metric

theorem threshold?_of_find? {metric : Metric} {text : List Char} {m : Match Part}
    {comparator numeral : Capture} (hfind : metric.pattern.find? text = some m)
    (hcomparator : m.get? Part.comparator = some comparator)
    (hnumeral : m.get? Part.numeral = some numeral) :
    threshold? text metric =
      (value? metric numeral.text ((m.get? Part.suffix).map fun c => String.ofList c.text)).map
        fun x => if comparator.text = ['<'] then .lessThan metric.field x
          else .greaterThan metric.field x := by
  rw [threshold?, hfind, Option.bind_eq_bind, Option.bind_some, hcomparator, Option.bind_eq_bind,
    Option.bind_some, hnumeral, Option.bind_eq_bind, Option.bind_some]
  exact (Option.map_eq_bind ..).symm

/-- The match that stands first is read, and a filter is made of what it reads. -/
theorem exists_reading_of_find? {metric : Metric} {text : List Char} {m : Match Part}
    (h : metric.pattern.find? text = some m) :
    ∃ r : metric.Reading text, r.IsFirst ∧ threshold? text metric = r.value?.map r.filterOf := by
  obtain ⟨before, captures, hfirst, rfl⟩ := find?_eq_some_iff_isFirst.1 h
  obtain ⟨r, rfl, hcomparator, hnumeral, hsuffix⟩ := Metric.exists_reading_of_matchesAt hfirst.1
  refine ⟨r, fun before' comparator numeral hworded => ?_, ?_⟩
  · obtain ⟨captures', hmatches⟩ := Metric.exists_matchesAt_of_wordedAt hworded
    exact hfirst.2 before' captures' hmatches
  · rw [threshold?_of_find? h hcomparator hnumeral]
    show Option.map _ (value? metric r.numeral
      ((captures.lookup .suffix).map fun c => String.ofList c.text)) = _
    rw [hsuffix, value?_suffix?]
    rfl

/-! ## The captured numeral -/

/-- The numeral that the threshold of a metric is read off, with its place. -/
def numeralCapture? (text : List Char) (metric : Metric) : Option Capture := do
  let m ← metric.pattern.find? text
  m.get? Part.numeral

theorem exists_numeralCapture?_of_threshold? {text : List Char} {metric : Metric} {f : Filter}
    (h : threshold? text metric = some f) :
    ∃ numeral, numeralCapture? text metric = some numeral := by
  simp only [threshold?, Option.bind_eq_bind, Option.bind_eq_some_iff] at h
  obtain ⟨m, hm, -, -, numeral, hnumeral, -⟩ := h
  exact ⟨numeral, Option.bind_eq_some_iff.2 ⟨m, hm, hnumeral⟩⟩

theorem exists_reading_of_numeralCapture? {text : List Char} {metric : Metric} {numeral : Capture}
    (h : numeralCapture? text metric = some numeral) :
    ∃ r : metric.Reading text,
      numeral = ⟨(r.front ++ (r.comparator ++ r.space)).length, r.numeral⟩ := by
  rw [numeralCapture?, Option.bind_eq_bind, Option.bind_eq_some_iff] at h
  obtain ⟨m, hm, hget⟩ := h
  obtain ⟨before, captures, hfirst, rfl⟩ := find?_eq_some_iff_isFirst.1 hm
  obtain ⟨r, -, -, hlookup, -⟩ := Metric.exists_reading_of_matchesAt hfirst.1
  exact ⟨r, Option.some.inj (hget.symm.trans hlookup)⟩

end ReportPlan
