import ReportPlan.Proofs.Text.Normal

/-! # Normal forms are canonical

A normal form is a text with single spaces between its words and no other blanks. Texts of this shape
without capitals are the normal forms and no others are; and the normal form of words, blanks and
words again is told by those of the two parts.

* `IsCanonical`: no blank at either end, none but spaces, and no two of them side by side.
* `isCanonical_unwords`: joined words have this shape; `isCanonical_normalize` and
  `isCanonical_titleCase`: normal forms and texts in title case have it.
* `IsCanonical.exists_word`, `isCanonical_iff`: a text of this shape, word by word.
* `normalize_eq_self_iff`: the texts that are their own normal form.
* `normalize_append_blanks`: the normal form of two parts with blanks between them.
* `normalize_canonical`: all of it, for every text.
-/

set_option autoImplicit false

namespace ReportPlan.Text

/-- No blank stands at either end, and between words there is a single space. -/
structure IsCanonical (s : List Char) : Prop where
  first : ∀ c ∈ s.head?, isBlank c = false
  last : ∀ c ∈ s.getLast?, isBlank c = false
  spaces : ∀ c ∈ s, isBlank c = true → c = ' '
  single : ¬[' ', ' '] <:+: s

/-! ## Joined words -/

theorem ne_space_of_nonblank {c : Char} (hc : isBlank c = false) : c ≠ ' ' := by
  rintro rfl
  rw [isBlank_space] at hc
  cases hc

/-- Two spaces in a row do not begin in a word. -/
theorem infix_spaces_append {w t : List Char} (hw : ∀ c ∈ w, isBlank c = false) :
    [' ', ' '] <:+: w ++ t ↔ [' ', ' '] <:+: t := by
  induction w with
  | nil => rfl
  | cons c w ih =>
    have hc := ne_space_of_nonblank (hw c List.mem_cons_self)
    rw [List.cons_append, List.infix_cons_iff, List.cons_prefix_cons,
      ih fun d hd => hw d (List.mem_cons_of_mem _ hd)]
    exact or_iff_right fun hbegins => hc hbegins.1.symm

theorem isCanonical_of_nonblank {s : List Char} (hs : ∀ c ∈ s, isBlank c = false) :
    IsCanonical s where
  first c hc := hs c (List.mem_of_mem_head? hc)
  last c hc := hs c (List.mem_of_getLast? hc)
  spaces c hc hblank := by
    rw [hs c hc] at hblank
    cases hblank
  single := by
    rw [← List.append_nil s, infix_spaces_append hs]
    simp

theorem IsCanonical.append_space {w t : List Char} (hne : w ≠ [])
    (hw : ∀ c ∈ w, isBlank c = false) (ht : t ≠ []) (h : IsCanonical t) :
    IsCanonical (w ++ ' ' :: t) where
  first c hc := by
    obtain ⟨d, rest, rfl⟩ := List.exists_cons_of_ne_nil hne
    exact hw c (List.mem_of_mem_head? hc)
  last c hc := by
    obtain ⟨d, rest, rfl⟩ := List.exists_cons_of_ne_nil ht
    refine h.last c ?_
    simpa using hc
  spaces c hc hblank := by
    rcases List.mem_append.1 hc with hc | hc
    · rw [hw c hc] at hblank
      cases hblank
    · rcases List.mem_cons.1 hc with rfl | hc
      · rfl
      · exact h.spaces c hc hblank
  single := by
    rw [infix_spaces_append hw, List.infix_cons_iff, List.cons_prefix_cons]
    rintro (⟨-, rest, rfl⟩ | hdouble)
    · exact ne_space_of_nonblank (h.first ' ' rfl) rfl
    · exact h.single hdouble

theorem unwords_ne_nil {ws : List (List Char)} (hws : ws ≠ [])
    (h : ∀ w ∈ ws, w ≠ [] ∧ ∀ c ∈ w, isBlank c = false) : unwords ws ≠ [] := by
  intro hnil
  have hwords := words_unwords h
  rw [hnil] at hwords
  exact hws hwords.symm

theorem isCanonical_unwords {ws : List (List Char)}
    (h : ∀ w ∈ ws, w ≠ [] ∧ ∀ c ∈ w, isBlank c = false) : IsCanonical (unwords ws) := by
  induction ws with
  | nil => exact isCanonical_of_nonblank fun c hc => absurd hc List.not_mem_nil
  | cons w ws ih =>
    obtain ⟨⟨hne, hw⟩, hrest⟩ := List.forall_mem_cons.1 h
    cases ws with
    | nil =>
      rw [unwords_singleton]
      exact isCanonical_of_nonblank hw
    | cons w' ws =>
      rw [unwords_cons_cons]
      exact (ih hrest).append_space hne hw (unwords_ne_nil (List.cons_ne_nil w' ws) hrest)

/-! ## Word by word -/

theorem IsCanonical.tail {w t : List Char} (hw : ∀ c ∈ w, isBlank c = false)
    (h : IsCanonical (w ++ ' ' :: t)) : t ≠ [] ∧ IsCanonical t := by
  have ht : t ≠ [] := by
    rintro rfl
    exact ne_space_of_nonblank (h.last ' ' (by simp)) rfl
  have hspaces : ¬[' ', ' '] <:+: ' ' :: t := by
    rw [← infix_spaces_append hw]
    exact h.single
  obtain ⟨d, rest, rfl⟩ := List.exists_cons_of_ne_nil ht
  refine ⟨ht, fun c hc => ?_, fun c hc => ?_, fun c hc => ?_, fun hdouble => ?_⟩
  · obtain rfl : d = c := Option.some.inj hc
    rw [← Bool.not_eq_true]
    intro hblank
    obtain rfl : d = ' ' := h.spaces d (by simp) hblank
    exact hspaces ⟨[], rest, rfl⟩
  · refine h.last c ?_
    simpa using hc
  · exact h.spaces c (by simp [List.mem_cons.1 hc])
  · exact hspaces (hdouble.trans (List.suffix_cons ' ' _).isInfix)

/-- A text of this shape begins with a word, and ends there or goes on in this shape behind a single
space. -/
theorem IsCanonical.exists_word {s : List Char} (h : IsCanonical s) (hs : s ≠ []) :
    ∃ w, (w ≠ [] ∧ ∀ c ∈ w, isBlank c = false) ∧
      (s = w ∨ ∃ t, t ≠ [] ∧ IsCanonical t ∧ s = w ++ ' ' :: t) := by
  obtain ⟨c, s, rfl⟩ := List.exists_cons_of_ne_nil hs
  have hc : (!isBlank c) = true := by simpa using h.first c rfl
  obtain ⟨w, rest, hsplit, ⟨hne, hrun⟩, hend⟩ := exists_run (p := (!isBlank ·)) hc s
  have hw : ∀ d ∈ w, isBlank d = false := fun d hd => by simpa using hrun d hd
  rw [hsplit] at h
  refine ⟨w, ⟨hne, hw⟩, ?_⟩
  cases rest with
  | nil => exact .inl (hsplit.trans (List.append_nil w))
  | cons b t =>
    obtain rfl : b = ' ' := h.spaces b (by simp) (by simpa using hend)
    exact .inr ⟨t, (h.tail hw).1, (h.tail hw).2, hsplit⟩

theorem unwords_words_of_isCanonical {s : List Char} (h : IsCanonical s) :
    unwords (words s) = s := by
  induction hn : s.length using Nat.strongRecOn generalizing s with
  | ind n ih =>
    by_cases hs : s = []
    · rw [hs]
      rfl
    · obtain ⟨w, ⟨hne, hw⟩, rfl | ⟨t, ht, hcanonical, rfl⟩⟩ := h.exists_word hs
      · rw [words_of_nonblank hne hw, unwords_singleton]
      · have hrest : unwords (words t) = t := by
          refine ih t.length ?_ hcanonical rfl
          rw [← hn, List.length_append, List.length_cons]
          omega
        have hwords : words t ≠ [] := by
          intro hnil
          rw [hnil] at hrest
          exact ht hrest.symm
        rw [words_append_blank isBlank_space, words_of_nonblank hne hw,
          unwords_append (List.cons_ne_nil w []) hwords, unwords_singleton, hrest]

theorem isCanonical_iff {s : List Char} : IsCanonical s ↔ unwords (words s) = s := by
  constructor
  · exact unwords_words_of_isCanonical
  · intro h
    rw [← h]
    exact isCanonical_unwords fun w hw => ⟨(ne_nil_of_mem_words hw).1, isBlank_of_mem_words hw⟩

/-! ## Normal forms and title case -/

theorem isCanonical_normalize (s : List Char) : IsCanonical (normalize s) := by
  rw [normalize_eq_unwords]
  refine isCanonical_unwords fun w hw => ?_
  obtain ⟨v, hv, rfl⟩ := List.mem_map.1 hw
  exact lowercase_word hv

theorem isCanonical_titleCase (s : List Char) : IsCanonical (titleCase s) := by
  refine isCanonical_unwords fun w hw => ?_
  obtain ⟨v, hv, rfl⟩ := List.mem_map.1 hw
  obtain ⟨hne, hnonblank⟩ := lowercase_word hv
  exact ⟨capitalize_ne_nil hne, fun c hc => isBlank_capitalize hnonblank hc⟩

/-- The normal forms are the texts of this shape without capitals. -/
theorem normalize_eq_self_iff {s : List Char} :
    normalize s = s ↔ IsCanonical s ∧ lowercase s = s := by
  constructor
  · intro h
    refine ⟨h ▸ isCanonical_normalize s, ?_⟩
    rw [← h, normalize, lowercase_lowercase]
  · rintro ⟨hcanonical, hlower⟩
    rw [normalize, unwords_words_of_isCanonical hcanonical, hlower]

theorem words_append_blanks (a b : List Char) {w : List Char}
    (hw : w ≠ [] ∧ ∀ c ∈ w, isBlank c = true) : words (a ++ w ++ b) = words a ++ words b := by
  obtain ⟨c, w, rfl⟩ := List.exists_cons_of_ne_nil hw.1
  have hblank : words (c :: w) = [] :=
    wordsAfter_eq_nil_iff.2 ⟨rfl, List.all_eq_true.2 hw.2⟩
  have hstart : ((c :: w) ++ b).head?.any isBlank = true := hw.2 c List.mem_cons_self
  have hend : (c :: w).getLast?.any isBlank = true := by
    rw [List.getLast?_eq_some_getLast (List.cons_ne_nil c w)]
    exact hw.2 _ (List.getLast_mem _)
  rw [List.append_assoc, words_append_of_start a (.inr hstart), words_append_of_end (.inr hend),
    hblank, List.nil_append]

/-- However many blanks stand between two parts, their normal forms have one space between them. -/
theorem normalize_append_blanks {a w b : List Char} (ha : isBlankText a = false)
    (hb : isBlankText b = false) (hw : w ≠ [] ∧ ∀ c ∈ w, isBlank c = true) :
    normalize (a ++ w ++ b) = normalize a ++ ' ' :: normalize b := by
  have hne : ∀ s : List Char, isBlankText s = false → (words s).map lowercase ≠ [] :=
    fun s hs => mt List.map_eq_nil_iff.1 (words_ne_nil hs)
  rw [normalize_eq_unwords, words_append_blanks a b hw, List.map_append,
    unwords_append (hne a ha) (hne b hb), ← normalize_eq_unwords, ← normalize_eq_unwords]

/-- A normal form is canonical and its own normal form, and blanks between two parts that are not
blank become a single space between their normal forms. -/
theorem normalize_canonical :
    (∀ s, IsCanonical (normalize s) ∧ normalize (normalize s) = normalize s) ∧
    ∀ a w b : List Char, isBlankText a = false → isBlankText b = false →
      (w ≠ [] ∧ ∀ c ∈ w, isBlank c = true) →
        normalize (a ++ w ++ b) = normalize a ++ ' ' :: normalize b :=
  ⟨fun s => ⟨isCanonical_normalize s, normalize_normalize s⟩,
    fun _ _ _ ha hb hw => normalize_append_blanks ha hb hw⟩

/-- A final sigma before blanks of other kinds, with a dotted capital behind them. -/
theorem normalize_canonical_finalSigma :
    IsCanonical (normalize "\u3000ΤΟΜΕΑΣ\t\u2003İŞ  FX\n".toList) ∧
    normalize ("\u3000ΤΟΜΕΑΣ".toList ++ "\t\u2003".toList ++ "İŞ  FX\n".toList) =
      "τομεας i\u0307ş fx".toList := by
  have hjoined := normalize_canonical.2 "\u3000ΤΟΜΕΑΣ".toList "\t\u2003".toList
    "İŞ  FX\n".toList (by decide +kernel) (by decide +kernel)
    ⟨by decide, List.all_eq_true.1 (by decide +kernel)⟩
  exact ⟨(normalize_canonical.1 _).1, hjoined.trans (by decide +kernel)⟩

end ReportPlan.Text
