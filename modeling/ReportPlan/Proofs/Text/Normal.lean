import ReportPlan.Proofs.Text.Appended
import ReportPlan.Proofs.Text.Nonblank

/-! # Normal forms stay as they are

No lower case is the upper case of anything else, so a text in lower case stays as it is when it is
written in lower case once more, and a normal form when it is normalized. The words of a text are
put into lower case one by one, and a part of a text that stands between blanks has its normal form
within that of the text.

* `Shift.settles`: the lower case of a run has no lower case of its own; so it is for every run.
* `lowercase_lowercase`, `normalize_normalize`, `trim_trim`: what a second pass gives.
* `normalize_eq_unwords`, `words_normalize`: a normal form, word by word.
* `normalize_infix`: the normal form of a part between blanks.
-/

set_option autoImplicit false

namespace ReportPlan
namespace Text

/-! ## Lower case of lower case -/

/-- Apart from the letters `A` to `Z`, the table has no capital below `À`. -/
theorem lowerShifts_above : (lowerShifts.all fun s =>
    Nat.ble 0x41 s.first && Nat.ble s.last 0x5A || Nat.ble 0xC0 s.first) = true := by
  decide +kernel

/-- What `İ` and `Σ` become in lower case is in lower case, and `Σ` itself is not. -/
theorem lowerChar_special : lowerChar 'i' = ['i'] ∧ lowerChar '\u0307' = ['\u0307'] ∧
    lowerChar 'ς' = ['ς'] ∧ lowerChar 'σ' = ['σ'] ∧ lowerChar 'Σ' ≠ ['Σ'] := by
  decide

theorem lowerChar_of_shifted?_eq_none {c : Char} (hc : c ≠ 'İ')
    (h : shifted? lowerShifts c.toNat = none) : lowerChar c = [c] := by
  rw [lowerChar, if_neg hc, h]
  rfl

/-- Apart from the letters `A` to `Z`, no character below `À` has a lower case. -/
theorem lowerChar_of_lt {c : Char} (h : c.toNat < 0x41 ∨ 0x5A < c.toNat ∧ c.toNat < 0xC0) :
    lowerChar c = [c] := by
  have hdotted : c ≠ 'İ' := by
    rintro rfl
    exact absurd h (by decide)
  refine lowerChar_of_shifted?_eq_none hdotted ?_
  rw [shifted?, Option.map_eq_none_iff, List.find?_eq_none]
  intro s hs hholds
  have hrun := List.all_eq_true.1 lowerShifts_above s hs
  simp only [Shift.holds, Bool.and_eq_true, Bool.or_eq_true, decide_eq_true_eq,
    Nat.ble_eq] at hholds hrun
  omega

/-- The run of the other cases of a run. -/
def Shift.image (s : Shift) : Shift :=
  ⟨((s.first : Int) + s.delta).toNat, ((s.last : Int) + s.delta).toNat, s.step, 0⟩

/-- Whether two runs have no code point in common: they lie apart, or each takes every second code
point and they pass each other. A run of one code point counts as one of these. -/
def Shift.misses (s t : Shift) : Bool :=
  t.last.blt s.first || s.last.blt t.first ||
    (t.step == 2 && (s.step == 2 || s.first == s.last) && ((s.first + t.first) % 2).beq 1)

/-- Whether the other cases of a run belong to no run of a list. -/
def Shift.settles (s : Shift) (shifts : List Shift) : Bool :=
  decide (0 ≤ (s.first : Int) + s.delta) && shifts.all s.image.misses

/-- The dotted capital `İ` is not in the table, so it is added here. -/
theorem lowerShifts_settle :
    (lowerShifts.all (·.settles (⟨0x130, 0x130, 1, 0⟩ :: lowerShifts))) = true := by
  decide +kernel

theorem Shift.holds_eq_false_of_misses {s t : Shift} {n : Nat} (hs : 0 ≤ (s.first : Int) + s.delta)
    (hmisses : s.image.misses t = true) (hn : s.holds n = true) :
    t.holds ((n : Int) + s.delta).toNat = false := by
  rw [← Bool.not_eq_true]
  intro ht
  simp only [holds, Bool.and_eq_true, decide_eq_true_eq, beq_iff_eq] at hn ht
  obtain ⟨⟨hfirst, hlast⟩, hstep⟩ := hn
  obtain ⟨⟨htfirst, htlast⟩, htstep⟩ := ht
  simp only [misses, image, Nat.blt_eq, Nat.beq_eq, Bool.or_eq_true, Bool.and_eq_true,
    beq_iff_eq] at hmisses
  rcases hmisses with (hbelow | habove) | ⟨⟨htwo, hthin⟩, hodd⟩
  · omega
  · omega
  · rw [htwo] at htstep
    rcases hthin with hthin | hthin
    · rw [hthin] at hstep
      omega
    · omega

theorem holds_eq_false_of_settles {shifts : List Shift} {s : Shift} {n : Nat}
    (hsettles : s.settles shifts = true) (hn : s.holds n = true) :
    ∀ t ∈ shifts, t.holds ((n : Int) + s.delta).toNat = false := by
  intro t ht
  rw [Shift.settles, Bool.and_eq_true, decide_eq_true_eq] at hsettles
  exact Shift.holds_eq_false_of_misses hsettles.1 (List.all_eq_true.1 hsettles.2 t ht) hn

/-- A lower case given by the table is no capital, neither one of the table nor `İ`. -/
theorem shifted?_eq_none_of_shifted? {n m : Nat} (h : shifted? lowerShifts n = some m) :
    shifted? lowerShifts m = none ∧ m ≠ 0x130 := by
  unfold shifted? at h
  obtain ⟨s, hs, rfl⟩ := Option.map_eq_some_iff.1 h
  have hn : s.holds n = true := List.find?_some (p := fun x : Shift => x.holds n) hs
  have hnone := holds_eq_false_of_settles
    (List.all_eq_true.1 lowerShifts_settle s (List.mem_of_find?_eq_some hs)) hn
  constructor
  · rw [shifted?, Option.map_eq_none_iff, List.find?_eq_none]
    intro t ht
    rw [hnone t (List.mem_cons_of_mem _ ht)]
    exact Bool.false_ne_true
  · intro heq
    have hdotted := hnone _ List.mem_cons_self
    rw [heq] at hdotted
    exact absurd hdotted (by decide)

theorem lowerChar_ofNat_of_shifted? {n m : Nat} (h : shifted? lowerShifts n = some m) :
    lowerChar (Char.ofNat m) = [Char.ofNat m] := by
  obtain ⟨hnone, hdotted⟩ := shifted?_eq_none_of_shifted? h
  by_cases hm : m.isValidChar
  · have hchar : Char.ofNat m = Char.ofNatAux m hm := dif_pos hm
    have hcode : (Char.ofNat m).toNat = m := by
      rw [hchar]
      rfl
    refine lowerChar_of_shifted?_eq_none ?_ (by rw [hcode]; exact hnone)
    intro heq
    rw [heq] at hcode
    exact hdotted hcode.symm
  · have hnul : Char.ofNat m = '\x00' := by
      rw [Char.ofNat, dif_neg hm]
      rfl
    rw [hnul]
    exact lowerChar_of_lt (.inl (by decide))

theorem lowerChar_of_mem_lowerChar {c d : Char} (hd : d ∈ lowerChar c) : lowerChar d = [d] := by
  unfold lowerChar at hd
  split at hd
  · simp only [List.mem_cons, List.not_mem_nil, or_false] at hd
    rcases hd with rfl | rfl
    · exact lowerChar_special.1
    · exact lowerChar_special.2.1
  · rename_i hc
    rw [List.mem_singleton] at hd
    subst hd
    cases hshift : shifted? lowerShifts c.toNat with
    | none => exact lowerChar_of_shifted?_eq_none hc hshift
    | some m => exact lowerChar_ofNat_of_shifted? hshift

theorem lowerChar_of_mem_lowercaseAfter {before s : List Char} {d : Char}
    (hd : d ∈ lowercaseAfter before s) : lowerChar d = [d] := by
  induction s generalizing before with
  | nil => cases hd
  | cons c s ih =>
    rw [lowercaseAfter, List.mem_append] at hd
    rcases hd with hd | hd
    · split at hd
      · obtain ⟨-, -, hfinal, hinner, -⟩ := lowerChar_special
        rw [List.mem_singleton, lowerSigma] at hd
        subst hd
        split
        · exact hfinal
        · exact hinner
      · exact lowerChar_of_mem_lowerChar hd
    · exact ih hd

theorem lowercaseAfter_of_lowerChar {before s : List Char} (h : ∀ c ∈ s, lowerChar c = [c]) :
    lowercaseAfter before s = s := by
  induction s generalizing before with
  | nil => rfl
  | cons c s ih =>
    have hc : lowerChar c = [c] := h c List.mem_cons_self
    have hsigma : c ≠ 'Σ' := by
      rintro rfl
      exact lowerChar_special.2.2.2.2 hc
    rw [lowercaseAfter, if_neg hsigma, hc, ih fun d hd => h d (List.mem_cons_of_mem _ hd)]
    rfl

theorem lowercase_lowercase (s : List Char) : lowercase (lowercase s) = lowercase s :=
  lowercaseAfter_of_lowerChar fun _ hc => lowerChar_of_mem_lowercaseAfter hc

/-! ## Words and their joints -/

theorem wordsAfter_of_nonblank {word s : List Char} (hs : ∀ c ∈ s, isBlank c = false) :
    wordsAfter word s = consWord (s.reverse ++ word) [] := by
  induction s generalizing word with
  | nil => rfl
  | cons c s ih =>
    rw [wordsAfter, hs c List.mem_cons_self, if_neg Bool.false_ne_true,
      ih fun d hd => hs d (List.mem_cons_of_mem _ hd)]
    simp

theorem words_of_nonblank {w : List Char} (hne : w ≠ []) (hw : ∀ c ∈ w, isBlank c = false) :
    words w = [w] := by
  rw [words, wordsAfter_of_nonblank hw]
  simp [consWord, hne]

theorem words_unwords {ws : List (List Char)}
    (h : ∀ w ∈ ws, w ≠ [] ∧ ∀ c ∈ w, isBlank c = false) : words (unwords ws) = ws := by
  induction ws with
  | nil => rfl
  | cons w ws ih =>
    obtain ⟨hne, hw⟩ := h w List.mem_cons_self
    cases ws with
    | nil =>
      rw [unwords_singleton]
      exact words_of_nonblank hne hw
    | cons w' ws =>
      rw [unwords_cons_cons, words_append_blank isBlank_space, words_of_nonblank hne hw,
        ih fun v hv => h v (List.mem_cons_of_mem _ hv)]
      rfl

/-- Spaces part the letters that decide the case of a sigma, so each word is on its own. -/
theorem lowercase_unwords (ws : List (List Char)) :
    lowercase (unwords ws) = unwords (ws.map lowercase) := by
  induction ws with
  | nil => rfl
  | cons w ws ih =>
    cases ws with
    | nil => rw [List.map_singleton, unwords_singleton, unwords_singleton]
    | cons w' ws =>
      rw [unwords_cons_cons, lowercase, lowercaseAfter_append_space, ih]
      simp only [List.map_cons, unwords_cons_cons, lowercase]

theorem words_append_of_end {s : List Char} (hs : s = [] ∨ s.getLast?.any isBlank = true)
    (t : List Char) : words (s ++ t) = words s ++ words t := by
  rcases List.eq_nil_or_concat s with rfl | ⟨u, b, rfl⟩
  · rfl
  · have hb : isBlank b = true := by simpa using hs
    rw [List.concat_eq_append, List.append_assoc, List.singleton_append, words_append_blank hb,
      words_append_blank hb]
    simp [words, wordsAfter, consWord]

theorem words_append_of_start (s : List Char) {t : List Char}
    (ht : t = [] ∨ t.head?.any isBlank = true) : words (s ++ t) = words s ++ words t := by
  cases t with
  | nil => simp [words, wordsAfter, consWord]
  | cons b t =>
    have hb : isBlank b = true := by simpa using ht
    have hrest : words (b :: t) = words t := words_append_blank hb [] t
    rw [words_append_blank hb, hrest]

theorem prefix_unwords (ws vs : List (List Char)) : unwords ws <+: unwords (ws ++ vs) := by
  by_cases hws : ws = []
  · rw [hws]
    exact List.nil_prefix
  · by_cases hvs : vs = []
    · simp [hvs]
    · rw [unwords_append hws hvs]
      exact List.prefix_append _ _

theorem suffix_unwords (ws vs : List (List Char)) : unwords vs <:+ unwords (ws ++ vs) := by
  by_cases hvs : vs = []
  · rw [hvs]
    exact List.nil_suffix
  · by_cases hws : ws = []
    · simp [hws]
    · rw [unwords_append hws hvs]
      exact (List.suffix_cons ' ' _).trans (List.suffix_append _ _)

/-! ## Normal forms -/

theorem normalize_eq_unwords (s : List Char) : normalize s = unwords ((words s).map lowercase) :=
  lowercase_unwords _

theorem lowercase_word {s w : List Char} (hw : w ∈ words s) :
    lowercase w ≠ [] ∧ ∀ c ∈ lowercase w, isBlank c = false := by
  have hnonblank := isBlank_of_mem_words hw
  constructor
  · intro hnil
    have hblank : isBlankText (lowercase w) = false :=
      isBlankText_lowercaseAfter (isBlankText_of_mem_words hw)
    rw [hnil] at hblank
    cases hblank
  · intro c hc
    exact isBlank_lowercaseAfter hnonblank hc

theorem words_normalize (s : List Char) : words (normalize s) = (words s).map lowercase := by
  rw [normalize_eq_unwords]
  refine words_unwords fun w hw => ?_
  obtain ⟨v, hv, rfl⟩ := List.mem_map.1 hw
  exact lowercase_word hv

theorem normalize_normalize (s : List Char) : normalize (normalize s) = normalize s := by
  rw [normalize_eq_unwords, words_normalize, List.map_map]
  have hlower : lowercase ∘ lowercase = lowercase := funext lowercase_lowercase
  rw [hlower, ← normalize_eq_unwords]

/-- Words with single spaces between them are a normal form if they have no capitals. -/
theorem normalize_of_words {s : List Char} (hwords : unwords (words s) = s)
    (hs : ∀ c ∈ s, lowerChar c = [c]) : normalize s = s := by
  rw [normalize, hwords]
  exact lowercaseAfter_of_lowerChar hs

theorem normalize_eq_nil_iff {s : List Char} : normalize s = [] ↔ isBlankText s = true := by
  constructor
  · intro hnil
    rw [← Bool.not_eq_false]
    intro hblank
    have hnormal := isBlankText_normalize hblank
    rw [hnil] at hnormal
    cases hnormal
  · intro hblank
    exact normalize_of_words_eq_nil (wordsAfter_eq_nil_iff.2 ⟨rfl, hblank⟩)

/-- A part that blanks, or the ends of a text, part from the rest has its normal form within that
of the text. -/
theorem normalize_infix {s m t : List Char} (hs : s = [] ∨ s.getLast?.any isBlank = true)
    (ht : t = [] ∨ t.head?.any isBlank = true) : normalize m <:+: normalize (s ++ m ++ t) := by
  have hwords : words (s ++ m ++ t) = words s ++ words m ++ words t := by
    rw [words_append_of_start _ ht, words_append_of_end hs]
  rw [normalize_eq_unwords, normalize_eq_unwords, hwords, List.map_append, List.map_append]
  exact (suffix_unwords _ _).isInfix.trans (prefix_unwords _ _).isInfix

/-! ## Trimmed texts -/

theorem trimStart_of_prefix {s t : List Char} (h : t <+: trimStart s) : trimStart t = t := by
  cases t with
  | nil => rfl
  | cons c t =>
    obtain ⟨rest, hrest⟩ := h
    have hc : isBlank c = false := by
      have hhead := List.head?_dropWhile_not isBlank s
      rw [← trimStart, ← hrest] at hhead
      simpa using hhead
    rw [trimStart, List.dropWhile_cons_of_neg (by simp [hc])]

/-- What is left of a text does not begin with a blank. -/
theorem trimStart_trim (s : List Char) : trimStart (trim s) = trim s := by
  refine trimStart_of_prefix (s := s) ?_
  rw [trim, ← List.reverse_suffix, List.reverse_reverse]
  exact List.dropWhile_suffix _

/-- What is left of a text does not end with a blank. -/
theorem trimStart_reverse_trim (s : List Char) : trimStart (trim s).reverse = (trim s).reverse := by
  rw [trim, List.reverse_reverse]
  exact trimStart_of_prefix List.prefix_rfl

theorem trim_trim (s : List Char) : trim (trim s) = trim s := by
  rw [trim, trimStart_trim, trimStart_reverse_trim, List.reverse_reverse]

end Text
end ReportPlan

namespace String

open ReportPlan

theorem normalize_normalize (s : String) : s.normalize.normalize = s.normalize := by
  simp [normalize, Text.normalize_normalize]

/-- Whether a character stands below `À` and is none of `A` to `Z`. -/
def isPlainChar (c : Char) : Bool :=
  c.toNat < 0x41 || (0x5A < c.toNat && c.toNat < 0xC0)

/-- Single spaces between the words, and plain characters only. -/
def IsPlain (s : String) : Prop :=
  Text.unwords (Text.words s.toList) = s.toList ∧ s.toList.all isPlainChar = true

instance (s : String) : Decidable s.IsPlain :=
  inferInstanceAs (Decidable (_ ∧ _))

theorem normalize_of_isPlain {s : String} (h : s.IsPlain) : s.normalize = s := by
  have hlower : ∀ c ∈ s.toList, Text.lowerChar c = [c] := by
    intro c hc
    have hplain := List.all_eq_true.1 h.2 c hc
    simp only [isPlainChar, Bool.or_eq_true, Bool.and_eq_true, decide_eq_true_eq] at hplain
    exact Text.lowerChar_of_lt hplain
  rw [normalize, Text.normalize_of_words h.1 hlower, String.ofList_toList]

theorem normalize_eq_empty_iff {s : String} : s.normalize = "" ↔ s.isBlankText = true := by
  rw [normalize, ← String.toList_eq_nil_iff, String.toList_ofList, isBlankText,
    Text.normalize_eq_nil_iff]

theorem trimBlanks_trimBlanks (s : String) : s.trimBlanks.trimBlanks = s.trimBlanks := by
  simp [trimBlanks, Text.trim_trim]

end String
