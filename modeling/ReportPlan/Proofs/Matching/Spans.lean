import ReportPlan.Proofs.Matching.Hiding

/-! # Spans in the bytes of a text

The spans that the search gives back count the bytes of the UTF-8 form of a text. What they are is
stated here without the search: the bytes of a span are those of the keyword, it begins and ends
between two characters, and of occurrences that overlap one another the leftmost is taken first. No
other list of spans is like this.

* `IsCharBoundary`: a place between two characters, as a number of bytes.
* `Span.Cuts`: the bytes of a span are those of a keyword. `Span.cuts_iff`: then the keyword stands
  there between two parts of the text.
* `Span.IsFree`: no letter and no numeral stands next to a span.
* `AreOccurrences`: spans of a keyword, from left to right and without overlaps.
* `IsGreedy`: nothing is left out but what overlaps a span further left.
* `pairwise_scanFrom`: the search goes on at the end of what it has found.
* `MatchMode.eq_occurrences_iff`: matching anywhere gives the one list of spans that is both.
* `MatchMode.occurrences_greedy`: the spans of both modes.
-/

set_option autoImplicit false

namespace ReportPlan

/-! ## Places between characters -/

theorem size_utf8Encode (s : List Char) : s.utf8Encode.size = byteLength s := by
  induction s with
  | nil => rfl
  | cons c s ih =>
    rw [List.utf8Encode_cons, ByteArray.size_append, ih, byteLength_cons, List.utf8Encode_singleton,
      List.size_toByteArray, String.length_utf8EncodeChar]

theorem extract_utf8Encode_append (u s : List Char) (i j : Nat) :
    (u ++ s).utf8Encode.extract (byteLength u + i) (byteLength u + j) =
      s.utf8Encode.extract i j := by
  rw [List.utf8Encode_append, ByteArray.extract_append_size_add' (size_utf8Encode u).symm]

theorem byteLength_pos {s : List Char} (hs : s ≠ []) : 0 < byteLength s := by
  obtain ⟨c, rest, rfl⟩ := List.exists_cons_of_ne_nil hs
  exact Nat.add_pos_left c.utf8Size_pos _

/-- There is one way to divide a text behind a number of bytes. -/
theorem append_inj_of_byteLength_eq {u v u' v' : List Char} (h : u ++ v = u' ++ v')
    (hlength : byteLength u = byteLength u') : u = u' ∧ v = v' := by
  have hnil : ∀ t w : List Char, byteLength (t ++ w) = byteLength t → w = [] := by
    intro t w ht
    cases w with
    | nil => rfl
    | cons c w =>
      have hpos := byteLength_pos (List.cons_ne_nil c w)
      rw [byteLength_append] at ht
      omega
  rcases List.append_eq_append_iff.1 h with ⟨w, rfl, rfl⟩ | ⟨w, rfl, rfl⟩
  · obtain rfl := hnil u w hlength.symm
    simp
  · obtain rfl := hnil u' w hlength
    simp

/-- A byte of a text at which a character begins, or the end of the text. -/
def IsCharBoundary (text : List Char) (n : Nat) : Prop :=
  String.Pos.Raw.IsValid (String.ofList text) ⟨n⟩

theorem isCharBoundary_iff {text : List Char} {n : Nat} :
    IsCharBoundary text n ↔ ∃ u v, text = u ++ v ∧ n = byteLength u := by
  have hsize : ∀ u : List Char, (String.ofList u).utf8ByteSize = byteLength u := by
    intro u
    rw [← String.size_toByteArray, String.toByteArray_ofList, size_utf8Encode]
  rw [IsCharBoundary, String.Pos.Raw.isValid_ofList]
  constructor
  · rintro ⟨i, hi⟩
    exact ⟨text.take i, text.drop i, (List.take_append_drop i text).symm, hi.trans (hsize _)⟩
  · rintro ⟨u, v, rfl, rfl⟩
    refine ⟨u.length, ?_⟩
    rw [List.take_left, hsize]

/-! ## Spans of a keyword -/

/-- The bytes of a span of a text are those of a keyword. -/
def Span.Cuts (span : Span) (needle text : List Char) : Prop :=
  span.stop ≤ text.utf8Encode.size ∧
    text.utf8Encode.extract span.start span.stop = needle.utf8Encode

/-- No letter and no numeral ends where a span begins, or begins where it ends. -/
def Span.IsFree (span : Span) (text : List Char) : Prop :=
  ∀ u c v, text = u ++ c :: v → byteLength (u ++ [c]) = span.start ∨ byteLength u = span.stop →
    Text.isAlphanumeric c = false

/-- The span of a keyword behind the first part of a text. -/
def spanBehind (u needle : List Char) : Span :=
  ⟨byteLength u, byteLength u + byteLength needle⟩

/-- Spans of a text that hold a keyword, from left to right, each one behind the end of the one
before it. -/
structure AreOccurrences (needle text : List Char) (spans : List Span) : Prop where
  ascending : spans.Pairwise fun a b => a.start < b.start
  disjoint : spans.Pairwise fun a b => a.stop ≤ b.start
  boundaries : ∀ span ∈ spans, IsCharBoundary text span.start ∧ IsCharBoundary text span.stop
  cuts : ∀ span ∈ spans, span.Cuts needle text

/-- Wherever a keyword stands in a text, that span is in a list, or it overlaps one of the list that
begins further left. -/
def IsGreedy (needle text : List Char) (spans : List Span) : Prop :=
  ∀ span : Span, span.Cuts needle text →
    span ∈ spans ∨ ∃ earlier ∈ spans, earlier.start < span.start ∧ span.start < earlier.stop

section Cuts

variable {needle text : List Char} {span : Span}

theorem Span.cuts_spanBehind (u needle v : List Char) :
    (spanBehind u needle).Cuts needle (u ++ needle ++ v) := by
  constructor
  · rw [size_utf8Encode, byteLength_append, byteLength_append]
    exact Nat.le_add_right _ _
  · rw [List.append_assoc]
    show (u ++ (needle ++ v)).utf8Encode.extract (byteLength u + 0)
      (byteLength u + byteLength needle) = _
    rw [extract_utf8Encode_append, List.utf8Encode_append,
      ByteArray.extract_append_eq_left (size_utf8Encode needle).symm]

theorem Span.Cuts.stop_eq (hneedle : needle ≠ []) (h : span.Cuts needle text) :
    span.stop = span.start + byteLength needle := by
  have hsize : span.stop - span.start = byteLength needle := by
    rw [← size_utf8Encode, ← h.2, ByteArray.size_extract, Nat.min_eq_left h.1]
  have hpos := byteLength_pos hneedle
  omega

theorem isUTF8FirstByte_of_eq_utf8Encode {s : List Char} (hs : s ≠ []) {bytes : ByteArray}
    (hbytes : bytes = s.utf8Encode) (hsize : 0 < bytes.size) : bytes[0].IsUTF8FirstByte := by
  obtain ⟨c, rest, rfl⟩ := List.exists_cons_of_ne_nil hs
  subst hbytes
  simp only [List.utf8Encode_cons (l := rest), List.utf8Encode_singleton]
  exact ByteArray.isUTF8FirstByte_getElem_zero_utf8EncodeChar_append

/-- The first byte of a character is never a later byte of another one, so the bytes of a keyword
do not begin inside a character. -/
theorem Span.Cuts.isCharBoundary_start (hneedle : needle ≠ []) (h : span.Cuts needle text) :
    IsCharBoundary text span.start := by
  have hstop := h.stop_eq hneedle
  have hpos := byteLength_pos hneedle
  have hlt : span.start < text.utf8Encode.size := by
    have hle := h.1
    omega
  have hsize : 0 < (text.utf8Encode.extract span.start span.stop).size := by
    rw [h.2, size_utf8Encode]
    omega
  have hfirst := isUTF8FirstByte_of_eq_utf8Encode hneedle h.2 hsize
  rw [ByteArray.getElem_extract] at hfirst
  refine String.Pos.Raw.isValid_iff_isUTF8FirstByte.2 (.inr ⟨?_, ?_⟩)
  · rw [String.Pos.Raw.lt_iff, String.byteIdx_rawEndPos, ← String.size_toByteArray,
      String.toByteArray_ofList]
    exact hlt
  · simpa only [String.getUTF8Byte, String.toByteArray_ofList, Nat.add_zero] using hfirst

theorem Span.cuts_iff (hneedle : needle ≠ []) :
    span.Cuts needle text ↔ ∃ u v, text = u ++ needle ++ v ∧ span = spanBehind u needle := by
  constructor
  · intro h
    obtain ⟨u, w, rfl, hstart⟩ := isCharBoundary_iff.1 (h.isCharBoundary_start hneedle)
    have hstop := h.stop_eq hneedle
    obtain ⟨hle, hbytes⟩ := h
    rw [hstop, hstart, ← Nat.add_zero (byteLength u), Nat.add_assoc, extract_utf8Encode_append,
      Nat.zero_add] at hbytes
    have hfits : byteLength needle ≤ w.utf8Encode.size := by
      rw [List.utf8Encode_append, ByteArray.size_append, size_utf8Encode u] at hle
      omega
    have hprefix : needle.utf8Encode ++
        w.utf8Encode.extract (byteLength needle) w.utf8Encode.size = w.utf8Encode := by
      rw [← hbytes, ByteArray.extract_append_extract, Nat.zero_min, Nat.max_eq_right hfits,
        ByteArray.extract_zero_size]
    obtain ⟨v, rfl⟩ := List.isPrefix_of_utf8Encode_append_eq_utf8Encode _ hprefix
    refine ⟨u, v, (List.append_assoc _ _ _).symm, ?_⟩
    rw [spanBehind, ← hstart, ← hstop]
  · rintro ⟨u, v, rfl, rfl⟩
    exact cuts_spanBehind u needle v

/-- The characters next to the span of a keyword are the last one in front of it and the first one
behind it. -/
theorem Span.isFree_spanBehind_iff {u v : List Char} :
    (spanBehind u needle).IsFree (u ++ needle ++ v) ↔
      u.getLast?.any Text.isAlphanumeric = false ∧ v.head?.any Text.isAlphanumeric = false := by
  constructor
  · intro h
    constructor
    · rcases List.eq_nil_or_concat u with rfl | ⟨u, c, rfl⟩
      · rfl
      · have hc := h u c (needle ++ v) (by simp) (.inl (by simp [spanBehind]))
        simpa using hc
    · cases v with
      | nil => rfl
      | cons c v =>
        have hc := h (u ++ needle) c v (by simp) (.inr (by simp [spanBehind]))
        simpa using hc
  · rintro ⟨hbefore, hafter⟩ u' c v' htext (hstart | hstop)
    · have htext' : (u' ++ [c]) ++ v' = u ++ (needle ++ v) := by
        rw [List.append_assoc, List.singleton_append, ← htext, List.append_assoc]
      obtain ⟨rfl, -⟩ := append_inj_of_byteLength_eq htext' hstart
      simpa using hbefore
    · have hlength : byteLength (u ++ needle) = byteLength u' := by
        rw [hstop, byteLength_append, spanBehind]
      obtain ⟨-, rfl⟩ := append_inj_of_byteLength_eq htext hlength
      simpa using hafter

end Cuts

/-! ## Spans of the search -/

/-- Behind an occurrence nothing is found before its end. -/
theorem pairwise_scanFrom {needle : List Char} (hneedle : needle ≠ []) (s : List Char)
    (skip offset : Nat) (before : Option Char) :
    (scanFrom needle skip offset before s).Pairwise fun a b => a.span.stop ≤ b.span.start := by
  induction s generalizing skip offset before with
  | nil =>
    rw [scanFrom, if_neg (by simpa using hneedle)]
    exact .nil
  | cons c s ih =>
    cases skip with
    | succ skip =>
      rw [scanFrom]
      exact ih ..
    | zero =>
      by_cases hstarts : needle.isPrefixOf (c :: s) = true
      · have hrest := ih (needle.length - 1) (offset + c.utf8Size) (some c)
        obtain ⟨v, hv⟩ := List.isPrefixOf_iff_prefix.1 hstarts
        rw [scanFrom, if_pos hstarts, List.pairwise_cons]
        refine ⟨fun b hb => ?_, hrest⟩
        -- what is skipped is the rest of the keyword
        obtain ⟨d, rest, rfl⟩ := List.exists_cons_of_ne_nil hneedle
        obtain ⟨rfl, rfl⟩ := List.cons.inj hv
        rw [List.length_cons, Nat.add_sub_cancel, List.append_eq, scanFrom_skip] at hb
        obtain ⟨u, v, -, hspan, -⟩ := exists_parts_of_mem_scanFrom hb
        rw [hspan, byteLength_cons]
        show offset + (d.utf8Size + byteLength rest) ≤
          offset + d.utf8Size + byteLength rest + byteLength u
        omega
      · rw [scanFrom, if_neg hstarts]
        exact ih ..

namespace MatchMode

variable {needle haystack : List Char}

theorem exists_parts_of_mem_occurrences {mode : MatchMode} {span : Span}
    (h : span ∈ mode.occurrences haystack needle) :
    ∃ u v, haystack = u ++ needle ++ v ∧ span = spanBehind u needle := by
  simp only [occurrences, List.mem_map, List.mem_filter] at h
  obtain ⟨o, ⟨ho, -⟩, rfl⟩ := h
  obtain ⟨u, v, htext, hspan, -⟩ := exists_parts_of_mem_scan ho
  exact ⟨u, v, htext, hspan⟩

theorem areOccurrences_occurrences (hneedle : needle ≠ []) (mode : MatchMode)
    (haystack : List Char) :
    AreOccurrences needle haystack (mode.occurrences haystack needle) := by
  have hcuts : ∀ span ∈ mode.occurrences haystack needle, span.Cuts needle haystack :=
    fun span hspan => (Span.cuts_iff hneedle).2 (exists_parts_of_mem_occurrences hspan)
  have hdisjoint : (mode.occurrences haystack needle).Pairwise fun a b => a.stop ≤ b.start :=
    List.pairwise_map.2 ((pairwise_scanFrom hneedle haystack 0 0 none).filter _)
  constructor
  · refine hdisjoint.imp_of_mem fun {a b} ha _ hle => Nat.lt_of_lt_of_le ?_ hle
    have hpos := byteLength_pos hneedle
    rw [(hcuts a ha).stop_eq hneedle]
    omega
  · exact hdisjoint
  · intro span hspan
    obtain ⟨u, v, rfl, rfl⟩ := exists_parts_of_mem_occurrences hspan
    exact ⟨isCharBoundary_iff.2 ⟨u, needle ++ v, by simp, rfl⟩,
      isCharBoundary_iff.2 ⟨u ++ needle, v, rfl, by simp [spanBehind]⟩⟩
  · exact hcuts

theorem isGreedy_substring (hneedle : needle ≠ []) (haystack : List Char) :
    IsGreedy needle haystack (substring.occurrences haystack needle) := by
  intro span hspan
  obtain ⟨u, v, rfl, rfl⟩ := (Span.cuts_iff hneedle).1 hspan
  rw [List.append_assoc]
  obtain ⟨u', v', htext, hle, hover, hmem⟩ := exists_mem_scan_over hneedle u v
  have hfound : spanBehind u' needle ∈ substring.occurrences (u ++ (needle ++ v)) needle := by
    rw [occurrences, List.mem_map]
    refine ⟨_, List.mem_filter.2 ⟨hmem, rfl⟩, ?_⟩
    rw [occurrenceBetween, spanBehind, Nat.zero_add]
  obtain ⟨front, rfl, hneedle'⟩ := exists_append_of_length_le htext hle
  by_cases hfront : front = []
  · subst hfront
    rw [List.append_nil] at hfound ⊢
    exact .inl hfound
  · rw [List.length_append] at hover
    obtain ⟨overlap, rfl, -⟩ := exists_append_of_length_le hneedle' (by omega)
    have hne : overlap ≠ [] := by
      rintro rfl
      simp at hover
    have hfrontPos := byteLength_pos hfront
    have hoverlapPos := byteLength_pos hne
    refine .inr ⟨_, hfound, ?_, ?_⟩
    · show byteLength u' < byteLength (u' ++ front)
      rw [byteLength_append]
      omega
    · show byteLength (u' ++ front) < byteLength u' + byteLength (front ++ overlap)
      rw [byteLength_append, byteLength_append]
      omega

theorem contains_substring_iff (hneedle : needle ≠ []) :
    substring.contains haystack needle = true ↔ needle <:+: haystack := by
  rw [contains_iff_exists_mem_scan]
  constructor
  · rintro ⟨-, o, ho, -⟩
    obtain ⟨u, v, rfl, -⟩ := exists_parts_of_mem_scan ho
    exact ⟨u, v, rfl⟩
  · intro hinfix
    obtain ⟨o, ho⟩ := exists_mem_scan_of_infix hneedle hinfix
    exact ⟨hneedle, o, ho, rfl⟩

/-- The mode accepts a span by the characters next to it. -/
theorem mem_occurrences_wordBoundary_iff {span : Span} :
    span ∈ wordBoundary.occurrences haystack needle ↔
      span ∈ substring.occurrences haystack needle ∧ span.IsFree haystack := by
  have hfree : ∀ o ∈ scan needle haystack,
      wordBoundary.accepts o = true ↔ o.span.IsFree haystack := by
    intro o ho
    obtain ⟨u, v, rfl, hspan, hbefore, hafter⟩ := exists_parts_of_mem_scan ho
    rw [accepts_wordBoundary_iff, hbefore, hafter, hspan]
    exact Span.isFree_spanBehind_iff.symm
  simp only [occurrences, List.mem_map, List.mem_filter]
  constructor
  · rintro ⟨o, ⟨ho, haccepts⟩, rfl⟩
    exact ⟨⟨o, ⟨ho, rfl⟩, rfl⟩, (hfree o ho).1 haccepts⟩
  · rintro ⟨⟨o, ⟨ho, -⟩, rfl⟩, hsides⟩
    exact ⟨o, ⟨ho, (hfree o ho).2 hsides⟩, rfl⟩

end MatchMode

/-! ## The only such spans -/

section Unique

variable {needle text : List Char} {spans spans' : List Span}

theorem AreOccurrences.stop_le (h : AreOccurrences needle text spans) {a b : Span} (ha : a ∈ spans)
    (hb : b ∈ spans) (hlt : a.start < b.start) : a.stop ≤ b.start := by
  obtain ⟨l, r, rfl⟩ := List.append_of_mem ha
  rcases List.mem_append.1 hb with hb | hb
  · have hback := (List.pairwise_append.1 h.ascending).2.2 b hb a List.mem_cons_self
    omega
  · rcases List.mem_cons.1 hb with rfl | hb
    · omega
    · exact (List.pairwise_cons.1 (List.pairwise_append.1 h.disjoint).2.1).1 b hb

theorem AreOccurrences.nodup (h : AreOccurrences needle text spans) : spans.Nodup := by
  refine h.ascending.imp fun {a b} hlt heq => ?_
  rw [heq] at hlt
  exact Nat.lt_irrefl _ hlt

/-- A span is in a greedy list too if all spans of that list further left are next to it. -/
theorem IsGreedy.mem_of_mem (hgreedy : IsGreedy needle text spans')
    (hspans : AreOccurrences needle text spans) {span : Span} (hspan : span ∈ spans)
    (hleft : ∀ earlier ∈ spans', earlier.start < span.start → earlier ∈ spans) : span ∈ spans' := by
  rcases hgreedy span (hspans.cuts span hspan) with hmem | ⟨earlier, hmem, hlt, hover⟩
  · exact hmem
  · have hle := hspans.stop_le (hleft earlier hmem hlt) hspan hlt
    omega

theorem IsGreedy.mem_iff (hspans : AreOccurrences needle text spans)
    (hgreedy : IsGreedy needle text spans) (hspans' : AreOccurrences needle text spans')
    (hgreedy' : IsGreedy needle text spans') (span : Span) : span ∈ spans ↔ span ∈ spans' := by
  induction hn : span.start using Nat.strongRecOn generalizing span with
  | ind n ih =>
    subst hn
    exact ⟨fun h => hgreedy'.mem_of_mem hspans h fun e he hlt => (ih _ hlt e rfl).2 he,
      fun h => hgreedy.mem_of_mem hspans' h fun e he hlt => (ih _ hlt e rfl).1 he⟩

theorem IsGreedy.eq (hspans : AreOccurrences needle text spans)
    (hgreedy : IsGreedy needle text spans) (hspans' : AreOccurrences needle text spans')
    (hgreedy' : IsGreedy needle text spans') : spans = spans' := by
  have hperm : spans.Perm spans' :=
    (List.perm_ext_iff_of_nodup hspans.nodup hspans'.nodup).2
      (hgreedy.mem_iff hspans hspans' hgreedy')
  exact hperm.eq_of_pairwise (fun a b _ _ hab hba => absurd hba (Nat.lt_asymm hab))
    hspans.ascending hspans'.ascending

end Unique

namespace MatchMode

variable {needle : List Char}

/-- Matching anywhere gives the spans of a keyword that the greedy choice from the left gives. -/
theorem eq_occurrences_iff (hneedle : needle ≠ []) {haystack : List Char} {spans : List Span} :
    spans = substring.occurrences haystack needle ↔
      AreOccurrences needle haystack spans ∧ IsGreedy needle haystack spans := by
  constructor
  · rintro rfl
    exact ⟨areOccurrences_occurrences hneedle substring haystack,
      isGreedy_substring hneedle haystack⟩
  · rintro ⟨hspans, hgreedy⟩
    exact hgreedy.eq hspans (areOccurrences_occurrences hneedle substring haystack)
      (isGreedy_substring hneedle haystack)

/-- The spans of a keyword ascend without overlaps, lie between characters and cut out the keyword.
Matching anywhere leaves out only what overlaps a span further left, so that it finds the parts of a
text and nothing else; whole-word matching keeps those spans that have no letter and no numeral next
to them. -/
theorem occurrences_greedy (hneedle : needle ≠ []) (haystack : List Char) :
    (∀ mode : MatchMode, AreOccurrences needle haystack (mode.occurrences haystack needle)) ∧
    IsGreedy needle haystack (substring.occurrences haystack needle) ∧
    (substring.contains haystack needle = true ↔ needle <:+: haystack) ∧
    ∀ span, span ∈ wordBoundary.occurrences haystack needle ↔
      span ∈ substring.occurrences haystack needle ∧ span.IsFree haystack :=
  ⟨fun mode => areOccurrences_occurrences hneedle mode haystack,
    ((eq_occurrences_iff hneedle).1 rfl).2, contains_substring_iff hneedle,
    fun _ => mem_occurrences_wordBoundary_iff⟩

/-- A keyword that overlaps itself, behind a letter of two bytes and then alone: of the overlapping
occurrences the first one is found, which whole-word matching refuses. -/
theorem occurrences_greedy_oo :
    "oo".toList ≠ [] ∧
    substring.occurrences "éooo oo".toList "oo".toList = [⟨2, 4⟩, ⟨6, 8⟩] ∧
    AreOccurrences "oo".toList "éooo oo".toList [⟨2, 4⟩, ⟨6, 8⟩] ∧
    IsGreedy "oo".toList "éooo oo".toList [⟨2, 4⟩, ⟨6, 8⟩] ∧
    ¬Span.IsFree ⟨2, 4⟩ "éooo oo".toList ∧ Span.IsFree ⟨6, 8⟩ "éooo oo".toList := by
  have hne : "oo".toList ≠ [] := by decide
  have hfound : substring.occurrences "éooo oo".toList "oo".toList = [⟨2, 4⟩, ⟨6, 8⟩] := by decide
  have halone : wordBoundary.occurrences "éooo oo".toList "oo".toList = [⟨6, 8⟩] := by decide
  obtain ⟨hspans, hgreedy, -, hfree⟩ := occurrences_greedy hne "éooo oo".toList
  have hfirst := hfree ⟨2, 4⟩
  have hsecond := hfree ⟨6, 8⟩
  rw [halone, hfound] at hfirst hsecond
  refine ⟨hne, hfound, hfound ▸ hspans substring, hfound ▸ hgreedy, fun h => ?_, ?_⟩
  · exact absurd (hfirst.2 ⟨by decide, h⟩) (by decide)
  · exact (hsecond.1 (by decide)).2

end MatchMode
end ReportPlan
