import ReportPlan.Pattern
import ReportPlan.Proofs.Lists

/-! # What patterns spell

The words of a pattern, told without the order in which matching tries them. Matching finds a word
wherever there is one, and it finds no other.

* `Pattern.Spells`: a pattern spells a piece of text with given captures.
* `Pattern.exists_spells_of_run`, `Pattern.isSome_run_of_spells`: matching and spelling.
* `Pattern.exists_last_of_runMany`: a repetition stops at the last place where the rest matches.
* `Pattern.run_maybe_of_some`, `Pattern.run_several_of_last`: what is matched first if the rest
  matches behind it.
* `Pattern.runMany_of_total`: a repetition that nothing behind it can fail is as long as possible.
* `Pattern.Spells.congr_after`: of what stands behind a word, only whether it goes on counts.
* `Pattern.MatchesAt`, `Pattern.IsFirst`: a match at a place of a text, and the leftmost of things.
* `Pattern.isFirst_of_not_infix`: the leftmost of things that begin with a given word.
* `Pattern.find?_eq_some_iff`, `Pattern.find?_eq_some_iff_isFirst`: the leftmost match.
* `Pattern.find?_append`: words that neither overlap nor can be read in two ways are found again in
  every text that goes on behind a word.
-/

set_option autoImplicit false

namespace ReportPlan
namespace Cursor

theorem capture_append (before word after : List Char) :
    Cursor.capture ⟨before, word ++ after⟩ ⟨word.reverse ++ before, after⟩ =
      ⟨before.length, word⟩ := by
  simp [Cursor.capture, Cursor.position]

/-- Before a part of a word, a word begins unless it goes on. -/
theorem atEdge_before_iff {before after : List Char}
    (h : after.head?.any Text.isWordChar = true) :
    (Cursor.mk before after).atEdge = true ↔ before.head?.any Text.isWordChar = false := by
  rw [atEdge, h]
  simp

/-- Behind a part of a word, a word ends unless it goes on. -/
theorem atEdge_after_iff {before after : List Char}
    (h : before.head?.any Text.isWordChar = true) :
    (Cursor.mk before after).atEdge = true ↔ after.head?.any Text.isWordChar = false := by
  rw [atEdge, h]
  simp

end Cursor

namespace Pattern

variable {ι α : Type}

/-! ## Spelling -/

/-- A pattern spells a piece of text. `before` stands before it, nearest character first, and
`after` behind it; the captures of the pattern come to those made earlier. -/
def Spells : Pattern ι → List Char → List Char → List Char → Captures ι → Captures ι → Prop
  | nothing, _, word, _, earlier, captures => word = [] ∧ captures = earlier
  | literal s, _, word, _, earlier, captures => word = s ∧ captures = earlier
  | one isMember, _, word, _, earlier, captures =>
    (∃ c, word = [c] ∧ isMember c = true) ∧ captures = earlier
  | many isMember, _, word, _, earlier, captures =>
    (∀ c ∈ word, isMember c = true) ∧ captures = earlier
  | sequence first second, before, word, after, earlier, captures =>
    ∃ u v between, word = u ++ v ∧ first.Spells before u (v ++ after) earlier between ∧
      second.Spells (u.reverse ++ before) v after between captures
  | either first second, before, word, after, earlier, captures =>
    first.Spells before word after earlier captures ∨
      second.Spells before word after earlier captures
  | capture label inner, before, word, after, earlier, captures =>
    ∃ between, inner.Spells before word after earlier between ∧
      captures = (label, ⟨before.length, word⟩) :: between
  | edge, before, word, after, earlier, captures =>
    word = [] ∧ (Cursor.mk before after).atEdge = true ∧ captures = earlier

section Equations

variable {before word after : List Char} {earlier captures : Captures ι} {p q r : Pattern ι}

theorem spells_append :
    (p ++ q).Spells before word after earlier captures ↔
      ∃ u v between, word = u ++ v ∧ p.Spells before u (v ++ after) earlier between ∧
        q.Spells (u.reverse ++ before) v after between captures := Iff.rfl

@[simp] theorem spells_append_assoc :
    (p ++ q ++ r).Spells before word after earlier captures ↔
      (p ++ (q ++ r)).Spells before word after earlier captures := by
  simp only [spells_append]
  constructor
  · rintro ⟨_, w, _, rfl, ⟨u, v, _, rfl, hu, hv⟩, hw⟩
    exact ⟨u, v ++ w, _, by simp, by simpa using hu, v, w, _, rfl, hv, by simpa using hw⟩
  · rintro ⟨u, _, _, rfl, hu, v, w, _, rfl, hv, hw⟩
    exact ⟨u ++ v, w, _, by simp, ⟨u, v, _, rfl, by simpa using hu, hv⟩, by simpa using hw⟩

@[simp] theorem spells_word {s : String} :
    (Pattern.word s : Pattern ι).Spells before word after earlier captures ↔
      word = s.toList ∧ captures = earlier := Iff.rfl

@[simp] theorem spells_one {isMember : Char → Bool} :
    (one isMember : Pattern ι).Spells before word after earlier captures ↔
      (∃ c, word = [c] ∧ isMember c = true) ∧ captures = earlier := Iff.rfl

@[simp] theorem spells_edge :
    (edge : Pattern ι).Spells before word after earlier captures ↔
      word = [] ∧ (Cursor.mk before after).atEdge = true ∧ captures = earlier := Iff.rfl

@[simp] theorem spells_several {isMember : Char → Bool} :
    (several isMember : Pattern ι).Spells before word after earlier captures ↔
      (word ≠ [] ∧ ∀ c ∈ word, isMember c = true) ∧ captures = earlier := by
  constructor
  · rintro ⟨u, v, between, rfl, ⟨⟨c, rfl, hc⟩, rfl⟩, hv, rfl⟩
    exact ⟨⟨by simp, by simpa [hc] using hv⟩, rfl⟩
  · rintro ⟨⟨hne, hword⟩, rfl⟩
    obtain ⟨c, rest, rfl⟩ := List.exists_cons_of_ne_nil hne
    exact ⟨[c], rest, _, rfl, ⟨⟨c, rfl, hword c (by simp)⟩, rfl⟩,
      fun d hd => hword d (List.mem_cons_of_mem _ hd), rfl⟩

@[simp] theorem spells_many {isMember : Char → Bool} :
    (many isMember : Pattern ι).Spells before word after earlier captures ↔
      (∀ c ∈ word, isMember c = true) ∧ captures = earlier := Iff.rfl

@[simp] theorem spells_capture {label : ι} :
    (capture label p).Spells before word after earlier captures ↔
      ∃ between, p.Spells before word after earlier between ∧
        captures = (label, ⟨before.length, word⟩) :: between := Iff.rfl

@[simp] theorem spells_or :
    (p ||| q).Spells before word after earlier captures ↔
      p.Spells before word after earlier captures ∨
        q.Spells before word after earlier captures := Iff.rfl

@[simp] theorem spells_maybe :
    (maybe p).Spells before word after earlier captures ↔
      p.Spells before word after earlier captures ∨ word = [] ∧ captures = earlier := Iff.rfl

@[simp] theorem spells_oneOfWords {words : List String} :
    (oneOfWords words : Pattern ι).Spells before word after earlier captures ↔
      (∃ s ∈ words, word = s.toList) ∧ captures = earlier := by
  induction words with
  | nil => simp [oneOfWords]
  | cons s words ih =>
    cases words with
    | nil => simp [oneOfWords]
    | cons s' words =>
      have hfirst : (oneOfWords (s :: s' :: words) : Pattern ι) =
        Pattern.word s ||| oneOfWords (s' :: words) := rfl
      rw [hfirst, spells_or, spells_word, ih, ← or_and_right]
      simp only [List.mem_cons, or_and_right, exists_or, exists_eq_left]

/-! The same for a pattern with another one behind it. -/

@[simp] theorem spells_word_append {s : String} :
    (Pattern.word s ++ p).Spells before word after earlier captures ↔
      ∃ v, word = s.toList ++ v ∧
        p.Spells (s.toList.reverse ++ before) v after earlier captures := by
  constructor
  · rintro ⟨_, v, _, rfl, ⟨rfl, rfl⟩, hv⟩
    exact ⟨v, rfl, hv⟩
  · rintro ⟨v, rfl, hv⟩
    exact ⟨_, v, _, rfl, ⟨rfl, rfl⟩, hv⟩

@[simp] theorem spells_one_append {isMember : Char → Bool} :
    (one isMember ++ p).Spells before word after earlier captures ↔
      ∃ c v, word = c :: v ∧ isMember c = true ∧
        p.Spells (c :: before) v after earlier captures := by
  constructor
  · rintro ⟨_, v, _, rfl, ⟨⟨c, rfl, hc⟩, rfl⟩, hv⟩
    exact ⟨c, v, rfl, hc, hv⟩
  · rintro ⟨c, v, rfl, hc, hv⟩
    exact ⟨[c], v, _, rfl, ⟨⟨c, rfl, hc⟩, rfl⟩, hv⟩

@[simp] theorem spells_many_append {isMember : Char → Bool} :
    (many isMember ++ p).Spells before word after earlier captures ↔
      ∃ u v, word = u ++ v ∧ (∀ c ∈ u, isMember c = true) ∧
        p.Spells (u.reverse ++ before) v after earlier captures := by
  constructor
  · rintro ⟨u, v, _, rfl, ⟨hu, rfl⟩, hv⟩
    exact ⟨u, v, rfl, hu, hv⟩
  · rintro ⟨u, v, rfl, hu, hv⟩
    exact ⟨u, v, _, rfl, ⟨hu, rfl⟩, hv⟩

@[simp] theorem spells_several_append {isMember : Char → Bool} :
    (several isMember ++ p).Spells before word after earlier captures ↔
      ∃ u v, word = u ++ v ∧ (u ≠ [] ∧ ∀ c ∈ u, isMember c = true) ∧
        p.Spells (u.reverse ++ before) v after earlier captures := by
  rw [spells_append]
  constructor
  · rintro ⟨u, v, _, rfl, hu, hv⟩
    obtain ⟨hrun, rfl⟩ := spells_several.1 hu
    exact ⟨u, v, rfl, hrun, hv⟩
  · rintro ⟨u, v, rfl, hrun, hv⟩
    exact ⟨u, v, _, rfl, spells_several.2 ⟨hrun, rfl⟩, hv⟩

@[simp] theorem spells_edge_append :
    (edge ++ p).Spells before word after earlier captures ↔
      (Cursor.mk before (word ++ after)).atEdge = true ∧
        p.Spells before word after earlier captures := by
  constructor
  · rintro ⟨_, v, _, rfl, ⟨rfl, hedge, rfl⟩, hv⟩
    exact ⟨hedge, hv⟩
  · rintro ⟨hedge, hv⟩
    exact ⟨[], word, _, rfl, ⟨rfl, hedge, rfl⟩, hv⟩

@[simp] theorem spells_capture_append {label : ι} :
    (capture label q ++ p).Spells before word after earlier captures ↔
      ∃ u v between, word = u ++ v ∧ q.Spells before u (v ++ after) earlier between ∧
        p.Spells (u.reverse ++ before) v after ((label, ⟨before.length, u⟩) :: between)
          captures := by
  constructor
  · rintro ⟨u, v, _, rfl, ⟨between, hu, rfl⟩, hv⟩
    exact ⟨u, v, between, rfl, hu, hv⟩
  · rintro ⟨u, v, between, rfl, hu, hv⟩
    exact ⟨u, v, _, rfl, ⟨between, hu, rfl⟩, hv⟩

end Equations

/-! ## Matching and spelling -/

theorem isSome_runMany {isMember : Char → Bool} {k : Cursor → Option α}
    {before u v : List Char} (hu : ∀ c ∈ u, isMember c = true)
    (hk : (k ⟨u.reverse ++ before, v⟩).isSome = true) :
    (runMany isMember k before (u ++ v)).isSome = true := by
  induction u generalizing before with
  | nil =>
    cases v with
    | nil => simpa [runMany] using hk
    | cons c rest =>
      rw [List.nil_append, runMany]
      split
      · simp_all
      · exact hk
  | cons c u ih =>
    have hc : isMember c = true := hu c (by simp)
    have hk' : (k ⟨u.reverse ++ c :: before, v⟩).isSome = true := by simpa using hk
    have hrest := ih (fun d hd => hu d (List.mem_cons_of_mem _ hd)) hk'
    rw [List.cons_append, runMany, if_pos hc]
    simp [hrest]

/-- A repetition stops at the last place where the continuation succeeds. -/
theorem exists_last_of_runMany {isMember : Char → Bool} {k : Cursor → Option α} {a : α}
    {before s : List Char} (h : runMany isMember k before s = some a) :
    ∃ u v, s = u ++ v ∧ (∀ c ∈ u, isMember c = true) ∧ k ⟨u.reverse ++ before, v⟩ = some a ∧
      ∀ x y, v = x ++ y → x ≠ [] → (∀ c ∈ x, isMember c = true) →
        k ⟨x.reverse ++ (u.reverse ++ before), y⟩ = none := by
  induction s generalizing before with
  | nil =>
    refine ⟨[], [], rfl, by simp, h, fun x y hxy hne _ => ?_⟩
    exact absurd (List.append_eq_nil_iff.1 hxy.symm).1 hne
  | cons c rest ih =>
    rw [runMany] at h
    split at h
    · rename_i hc
      rw [Option.orElse_eq_or, Option.or_eq_some_iff] at h
      rcases h with h | ⟨hnone, h⟩
      · obtain ⟨u, v, rfl, hu, hk, hlast⟩ := ih h
        exact ⟨c :: u, v, rfl, by simpa [hc] using hu, by simpa using hk, by simpa using hlast⟩
      · refine ⟨[], c :: rest, rfl, by simp, h, fun x y hxy hne hx => ?_⟩
        obtain ⟨d, x, rfl⟩ := List.exists_cons_of_ne_nil hne
        obtain ⟨rfl, hrest⟩ := List.cons.inj hxy
        rw [Option.eq_none_iff_forall_ne_some]
        intro b hb
        have hb' : (k ⟨x.reverse ++ c :: before, y⟩).isSome = true := by
          simpa using Option.isSome_of_eq_some hb
        have hsome := isSome_runMany (fun d hd => hx d (List.mem_cons_of_mem _ hd)) hb'
        rw [show x ++ y = rest from hrest.symm, hnone] at hsome
        cases hsome
    · rename_i hc
      refine ⟨[], c :: rest, rfl, by simp, h, fun x y hxy hne hx => ?_⟩
      obtain ⟨d, x, rfl⟩ := List.exists_cons_of_ne_nil hne
      obtain ⟨rfl, -⟩ := List.cons.inj hxy
      exact absurd (hx c List.mem_cons_self) hc

/-- What is matched is spelled, and the continuation succeeds behind it. -/
theorem exists_spells_of_run {p : Pattern ι} {before s : List Char} {earlier : Captures ι}
    {k : Cursor → Captures ι → Option α} {a : α} (h : p.run ⟨before, s⟩ earlier k = some a) :
    ∃ word after captures, s = word ++ after ∧ p.Spells before word after earlier captures ∧
      k ⟨word.reverse ++ before, after⟩ captures = some a := by
  induction p generalizing before s earlier k with
  | nothing => exact ⟨[], s, earlier, rfl, ⟨rfl, rfl⟩, h⟩
  | literal word =>
    rw [run, Option.ite_none_right_eq_some] at h
    obtain ⟨hstarts, hk⟩ := h
    obtain ⟨after, rfl⟩ := List.isPrefixOf_iff_prefix.1 hstarts
    refine ⟨word, after, earlier, rfl, ⟨rfl, rfl⟩, ?_⟩
    simpa [Cursor.advance] using hk
  | one isMember =>
    cases s with
    | nil => cases h
    | cons c rest =>
      simp only [run, Option.ite_none_right_eq_some] at h
      exact ⟨[c], rest, earlier, rfl, ⟨⟨c, rfl, h.1⟩, rfl⟩, h.2⟩
  | many isMember =>
    obtain ⟨u, v, rfl, hu, hk, -⟩ := exists_last_of_runMany h
    exact ⟨u, v, earlier, rfl, ⟨hu, rfl⟩, hk⟩
  | sequence first second ihFirst ihSecond =>
    obtain ⟨u, rest, between, rfl, hu, hsecond⟩ := ihFirst h
    obtain ⟨v, after, captures, rfl, hv, hk⟩ := ihSecond hsecond
    refine ⟨u ++ v, after, captures, (List.append_assoc _ _ _).symm,
      ⟨u, v, between, rfl, hu, hv⟩, ?_⟩
    simpa using hk
  | either first second ihFirst ihSecond =>
    rw [run, Option.orElse_eq_or, Option.or_eq_some_iff] at h
    rcases h with h | ⟨-, h⟩
    · obtain ⟨word, after, captures, rfl, hword, hk⟩ := ihFirst h
      exact ⟨word, after, captures, rfl, .inl hword, hk⟩
    · obtain ⟨word, after, captures, rfl, hword, hk⟩ := ihSecond h
      exact ⟨word, after, captures, rfl, .inr hword, hk⟩
  | capture label inner ih =>
    obtain ⟨word, after, between, rfl, hword, hk⟩ := ih h
    refine ⟨word, after, _, rfl, ⟨between, hword, rfl⟩, ?_⟩
    rwa [Cursor.capture_append] at hk
  | edge =>
    rw [run, Option.ite_none_right_eq_some] at h
    exact ⟨[], s, earlier, rfl, ⟨rfl, h.1, rfl⟩, h.2⟩

/-- Where a word is spelled and the continuation succeeds behind it, matching succeeds too. -/
theorem isSome_run_of_spells {p : Pattern ι} {before word after : List Char}
    {earlier captures : Captures ι} {k : Cursor → Captures ι → Option α}
    (h : p.Spells before word after earlier captures)
    (hk : (k ⟨word.reverse ++ before, after⟩ captures).isSome = true) :
    (p.run ⟨before, word ++ after⟩ earlier k).isSome = true := by
  induction p generalizing before word after earlier captures k with
  | nothing =>
    obtain ⟨rfl, rfl⟩ := h
    exact hk
  | literal s =>
    obtain ⟨rfl, rfl⟩ := h
    simpa [run, Cursor.advance] using hk
  | one isMember =>
    obtain ⟨⟨c, rfl, hc⟩, rfl⟩ := h
    simpa [run, hc, Cursor.advance] using hk
  | many isMember =>
    obtain ⟨hword, rfl⟩ := h
    exact isSome_runMany hword hk
  | sequence first second ihFirst ihSecond =>
    obtain ⟨u, v, between, rfl, hu, hv⟩ := h
    rw [List.append_assoc]
    exact ihFirst hu (ihSecond hv (by simpa using hk))
  | either first second ihFirst ihSecond =>
    rw [run, Option.orElse_eq_or, Option.isSome_or, Bool.or_eq_true]
    exact h.imp (ihFirst · hk) (ihSecond · hk)
  | capture label inner ih =>
    obtain ⟨between, hword, rfl⟩ := h
    refine ih hword ?_
    rwa [Cursor.capture_append]
  | edge =>
    obtain ⟨rfl, hedge, rfl⟩ := h
    simpa [run, hedge] using hk

/-- Where a pattern spells nothing, matching fails. -/
theorem run_eq_none {p : Pattern ι} {before s : List Char} {earlier : Captures ι}
    {k : Cursor → Captures ι → Option α}
    (h : ∀ word after captures, s = word ++ after → ¬p.Spells before word after earlier captures) :
    p.run ⟨before, s⟩ earlier k = none := by
  rw [Option.eq_none_iff_forall_ne_some]
  intro a ha
  obtain ⟨word, after, captures, hs, hword, -⟩ := exists_spells_of_run ha
  exact h word after captures hs hword

/-! ## What is matched first -/

section Ways

variable {before rest : List Char} {captures : Captures ι} {k : Cursor → Captures ι → Option α}
  {a : α}

theorem run_maybe_of_none {p : Pattern ι} {cursor : Cursor} (h : p.run cursor captures k = none) :
    (maybe p).run cursor captures k = k cursor captures := by
  rw [maybe, run_or, h, run_nothing]
  rfl

theorem run_maybe_of_some {p : Pattern ι} {cursor : Cursor} (h : p.run cursor captures k = some a) :
    (maybe p).run cursor captures k = some a := by
  rw [maybe, run_or, h]
  rfl

theorem exists_of_run_oneOfWords {words : List String}
    (h : (oneOfWords words).run ⟨before, rest⟩ captures k = some a) :
    ∃ s ∈ words, ∃ rest', rest = s.toList ++ rest' ∧
      k ⟨s.toList.reverse ++ before, rest'⟩ captures = some a := by
  obtain ⟨_, rest', _, rfl, hspelled, hk⟩ := exists_spells_of_run h
  obtain ⟨⟨s, hs, rfl⟩, rfl⟩ := spells_oneOfWords.1 hspelled
  exact ⟨s, hs, rest', rfl, hk⟩

end Ways

theorem run_word {s : String} {before rest : List Char} {captures : Captures ι}
    {k : Cursor → Captures ι → Option α} :
    (Pattern.word s).run ⟨before, s.toList ++ rest⟩ captures k =
      k ⟨s.toList.reverse ++ before, rest⟩ captures := by
  simp [Pattern.word, run, Cursor.advance]

/-- At least one character of a class, up to a place where the class ends: all of them are taken if
the continuation succeeds there. -/
theorem run_several_of_last {isMember : Char → Bool} {before u rest : List Char}
    {captures : Captures ι} {k : Cursor → Captures ι → Option α} {a : α}
    (hu : u ≠ [] ∧ ∀ c ∈ u, isMember c = true) (hrest : rest.head?.any isMember = false)
    (hk : k ⟨u.reverse ++ before, rest⟩ captures = some a) :
    (several isMember : Pattern ι).run ⟨before, u ++ rest⟩ captures k = some a := by
  obtain ⟨hne, hmembers⟩ := hu
  obtain ⟨c, u, rfl⟩ := List.exists_cons_of_ne_nil hne
  have hc : isMember c = true := hmembers c List.mem_cons_self
  have hall : u.all isMember = true :=
    List.all_eq_true.2 fun d hd => hmembers d (List.mem_cons_of_mem _ hd)
  rw [several, run_append, List.cons_append]
  simp only [run, hc, if_true, Cursor.advance]
  exact runMany_of_last (c :: before) u rest hall hrest (by simpa using hk)

/-- A continuation that always succeeds lets a repetition keep all it can take. -/
theorem runMany_of_total {isMember : Char → Bool} {k : Cursor → Option α}
    (htotal : ∀ cursor, (k cursor).isSome = true) (before s : List Char) :
    runMany isMember k before s =
      k ⟨(s.takeWhile isMember).reverse ++ before, s.dropWhile isMember⟩ := by
  obtain ⟨a, ha⟩ := Option.isSome_iff_exists.1
    (htotal ⟨(s.takeWhile isMember).reverse ++ before, s.dropWhile isMember⟩)
  have hrun := runMany_of_last before _ _ List.all_takeWhile (head?_any_dropWhile isMember s) ha
  rw [List.takeWhile_append_dropWhile] at hrun
  rw [hrun, ha]

theorem exists_of_run_several {isMember : Char → Bool} {before s : List Char}
    {captures : Captures ι} {k : Cursor → Captures ι → Option α} {a : α}
    (htotal : ∀ cursor, (k cursor captures).isSome = true)
    (h : (several isMember : Pattern ι).run ⟨before, s⟩ captures k = some a) :
    ∃ u rest, s = u ++ rest ∧ (u ≠ [] ∧ ∀ c ∈ u, isMember c = true) ∧
      rest.head?.any isMember = false ∧ k ⟨u.reverse ++ before, rest⟩ captures = some a := by
  cases s with
  | nil => cases h
  | cons c s =>
    simp only [several, run_append, run, Option.ite_none_right_eq_some] at h
    obtain ⟨hc, h⟩ := h
    rw [runMany_of_total htotal] at h
    refine ⟨c :: s.takeWhile isMember, s.dropWhile isMember, ?_, ⟨List.cons_ne_nil _ _, ?_⟩,
      head?_any_dropWhile isMember s, by simpa [Cursor.advance] using h⟩
    · rw [List.cons_append, List.takeWhile_append_dropWhile]
    · exact List.forall_mem_cons.2 ⟨hc, List.all_eq_true.1 List.all_takeWhile⟩

/-- Of what stands behind a word, only the first character counts, and of it only whether it goes on
with a word. -/
theorem Spells.congr_after {p : Pattern ι} {before word after after' : List Char}
    {earlier captures : Captures ι} (h : p.Spells before word after earlier captures)
    (hafter : after.head?.any Text.isWordChar = after'.head?.any Text.isWordChar) :
    p.Spells before word after' earlier captures := by
  induction p generalizing before word after after' earlier captures with
  | nothing => exact h
  | literal s => exact h
  | one isMember => exact h
  | many isMember => exact h
  | sequence first second ihFirst ihSecond =>
    obtain ⟨u, v, between, rfl, hu, hv⟩ := h
    refine ⟨u, v, between, rfl, ihFirst hu ?_, ihSecond hv hafter⟩
    cases v with
    | nil => exact hafter
    | cons c rest => rfl
  | either first second ihFirst ihSecond => exact h.imp (ihFirst · hafter) (ihSecond · hafter)
  | capture label inner ih =>
    obtain ⟨between, hword, rfl⟩ := h
    exact ⟨between, ih hword hafter, rfl⟩
  | edge =>
    obtain ⟨rfl, hedge, rfl⟩ := h
    refine ⟨rfl, ?_, rfl⟩
    rw [Cursor.atEdge, ← hafter]
    exact hedge

/-! ## The leftmost match -/

theorem exists_spells_of_matchAt? {p : Pattern ι} {before s : List Char} {m : Match ι}
    (h : p.matchAt? ⟨before, s⟩ = some m) :
    ∃ word after, s = word ++ after ∧ p.Spells before word after [] m.captures ∧
      m.start = before.length := by
  obtain ⟨word, after, captures, rfl, hword, hm⟩ := exists_spells_of_run h
  cases hm
  exact ⟨word, after, rfl, hword, rfl⟩

theorem exists_matchAt?_of_spells {p : Pattern ι} {before word after : List Char}
    {captures : Captures ι} (h : p.Spells before word after [] captures) :
    ∃ m, p.matchAt? ⟨before, word ++ after⟩ = some m :=
  Option.isSome_iff_exists.1 (isSome_run_of_spells h rfl)

theorem matchAt?_eq_none_iff {p : Pattern ι} {before s : List Char} :
    p.matchAt? ⟨before, s⟩ = none ↔
      ∀ word after captures, s = word ++ after → ¬p.Spells before word after [] captures := by
  constructor
  · rintro hnone word after captures rfl h
    obtain ⟨m, hm⟩ := exists_matchAt?_of_spells h
    rw [hnone] at hm
    cases hm
  · exact run_eq_none

/-- A match is found where there is none further left. -/
theorem findFrom?_eq_some_iff {p : Pattern ι} {before s : List Char} {m : Match ι} :
    p.findFrom? before s = some m ↔
      ∃ u v, s = u ++ v ∧ p.matchAt? ⟨u.reverse ++ before, v⟩ = some m ∧
        ∀ u' v', s = u' ++ v' → u'.length < u.length →
          p.matchAt? ⟨u'.reverse ++ before, v'⟩ = none := by
  induction s generalizing before with
  | nil =>
    rw [findFrom?]
    constructor
    · exact fun h => ⟨[], [], rfl, h, fun _ _ _ hlt => absurd hlt (Nat.not_lt_zero _)⟩
    · rintro ⟨u, v, hs, hm, -⟩
      obtain ⟨rfl, rfl⟩ := List.append_eq_nil_iff.1 hs.symm
      exact hm
  | cons c rest ih =>
    rw [findFrom?, Option.orElse_eq_or, Option.or_eq_some_iff, ih]
    constructor
    · rintro (hm | ⟨hnone, u, v, rfl, hm, hleft⟩)
      · exact ⟨[], c :: rest, rfl, hm, fun _ _ _ hlt => absurd hlt (Nat.not_lt_zero _)⟩
      · refine ⟨c :: u, v, rfl, by simpa using hm, fun u' v' hs hlt => ?_⟩
        cases u' with
        | nil =>
          rw [List.nil_append] at hs
          rw [← hs]
          exact hnone
        | cons d u' =>
          obtain ⟨rfl, hrest⟩ := List.cons.inj hs
          simpa using hleft u' v' hrest (Nat.lt_of_succ_lt_succ hlt)
    · rintro ⟨u, v, hs, hm, hleft⟩
      cases u with
      | nil =>
        rw [List.nil_append] at hs
        rw [hs]
        exact .inl hm
      | cons d u =>
        obtain ⟨rfl, rfl⟩ := List.cons.inj hs
        refine .inr ⟨hleft [] _ rfl (Nat.succ_pos _), u, v, rfl, by simpa using hm,
          fun u' v' hrest hlt => ?_⟩
        simpa using hleft (c :: u') v' (congrArg (c :: ·) hrest) (Nat.succ_lt_succ hlt)

theorem find?_eq_some_iff {p : Pattern ι} {text : List Char} {m : Match ι} :
    p.find? text = some m ↔
      ∃ u v, text = u ++ v ∧ p.matchAt? ⟨u.reverse, v⟩ = some m ∧
        ∀ u' v', text = u' ++ v' → u'.length < u.length → p.matchAt? ⟨u'.reverse, v'⟩ = none := by
  have hfrom : p.findFrom? [] text = some m ↔ _ := findFrom?_eq_some_iff
  simpa [find?] using hfrom

/-- Behind the characters `before` of a text, a pattern matches with given captures. -/
def MatchesAt (p : Pattern ι) (text before : List Char) (captures : Captures ι) : Prop :=
  ∃ rest, text = before ++ rest ∧
    p.matchAt? ⟨before.reverse, rest⟩ = some ⟨before.length, captures⟩

theorem matchesAt_of_matchAt? {p : Pattern ι} {before rest : List Char} {m : Match ι}
    (h : p.matchAt? ⟨before.reverse, rest⟩ = some m) :
    p.MatchesAt (before ++ rest) before m.captures ∧ m = ⟨before.length, m.captures⟩ := by
  obtain ⟨word, after, -, -, hstart⟩ := exists_spells_of_matchAt? h
  rw [List.length_reverse] at hstart
  have hm : m = ⟨before.length, m.captures⟩ := by rw [← hstart]
  exact ⟨⟨rest, rfl, hm ▸ h⟩, hm⟩

theorem MatchesAt.unique {p : Pattern ι} {text before : List Char} {captures captures' : Captures ι}
    (h : p.MatchesAt text before captures) (h' : p.MatchesAt text before captures') :
    captures = captures' := by
  obtain ⟨rest, rfl, hm⟩ := h
  obtain ⟨rest', heq, hm'⟩ := h'
  rw [← List.append_cancel_left heq, hm] at hm'
  cases hm'
  rfl

/-- Of all things that stand at places of a text, one that nothing stands before. -/
def IsFirst (Stands : List Char → α → Prop) (before : List Char) (a : α) : Prop :=
  Stands before a ∧ ∀ before' a', Stands before' a' → before.length ≤ before'.length

theorem IsFirst.of_stands {β : Type} {Stands : List Char → α → Prop}
    {Stands' : List Char → β → Prop} {before : List Char} {a : α} {b : β}
    (h : IsFirst Stands before a) (hb : Stands' before b)
    (himp : ∀ before' b', Stands' before' b' → ∃ a', Stands before' a') :
    IsFirst Stands' before b := by
  refine ⟨hb, fun before' b' hb' => ?_⟩
  obtain ⟨a', ha'⟩ := himp before' b' hb'
  exact h.2 before' a' ha'

/-- What stands where a word begins is the first of its kind if nothing of the kind stands elsewhere
than at this word, and the word neither stands further left nor has its first letter again. -/
theorem isFirst_of_not_infix {Stands : List Char → α → Prop} {c : Char}
    {word text front rest : List Char} {a : α} (hc : c ∉ word) (hfront : ¬c :: word <:+: front)
    (htext : text = front ++ c :: rest) (ha : Stands front a)
    (hword : ∀ before a', Stands before a' → ∃ v, text = before ++ (c :: word ++ v)) :
    IsFirst Stands front a := by
  refine ⟨ha, fun before a' h => ?_⟩
  obtain ⟨v, hv⟩ := hword before a' h
  exact length_le_of_not_infix hc hfront (htext.symm.trans hv)

theorem find?_eq_some_iff_isFirst {p : Pattern ι} {text : List Char} {m : Match ι} :
    p.find? text = some m ↔
      ∃ before captures, IsFirst (p.MatchesAt text) before captures ∧
        m = ⟨before.length, captures⟩ := by
  rw [find?_eq_some_iff]
  constructor
  · rintro ⟨before, rest, rfl, hm, hleft⟩
    obtain ⟨hmatches, heq⟩ := matchesAt_of_matchAt? hm
    refine ⟨before, m.captures, ⟨hmatches, fun before' captures' hmatches' => ?_⟩, heq⟩
    obtain ⟨rest', htext, hm'⟩ := hmatches'
    refine Nat.le_of_not_lt fun hlt => ?_
    rw [hleft before' rest' htext hlt] at hm'
    cases hm'
  · rintro ⟨before, captures, ⟨⟨rest, htext, hm⟩, hleft⟩, rfl⟩
    refine ⟨before, rest, htext, hm, fun before' rest' htext' hlt => ?_⟩
    rw [Option.eq_none_iff_forall_ne_some]
    intro m' hm'
    obtain ⟨hmatches, -⟩ := matchesAt_of_matchAt? hm'
    rw [← htext'] at hmatches
    exact Nat.not_le_of_lt hlt (hleft _ _ hmatches)

theorem findFrom?_eq_none_iff {p : Pattern ι} {before s : List Char} :
    p.findFrom? before s = none ↔
      ∀ u v, s = u ++ v → p.matchAt? ⟨u.reverse ++ before, v⟩ = none := by
  induction s generalizing before with
  | nil =>
    rw [findFrom?]
    constructor
    · intro h u v huv
      obtain ⟨rfl, rfl⟩ := List.append_eq_nil_iff.1 huv.symm
      exact h
    · exact fun h => h [] [] rfl
  | cons c rest ih =>
    rw [findFrom?, Option.orElse_eq_or, Option.or_eq_none_iff, ih]
    constructor
    · rintro ⟨hhere, hrest⟩ u v huv
      cases u with
      | nil =>
        rw [List.nil_append] at huv
        rw [← huv]
        exact hhere
      | cons d u =>
        obtain ⟨rfl, rfl⟩ := List.cons.inj huv
        simpa using hrest u v rfl
    · intro h
      refine ⟨h [] _ rfl, fun u v huv => ?_⟩
      simpa using h (c :: u) v (congrArg (c :: ·) huv)

theorem find?_eq_none_iff {p : Pattern ι} {text : List Char} :
    p.find? text = none ↔ ∀ before captures, ¬p.MatchesAt text before captures := by
  rw [find?, findFrom?_eq_none_iff]
  simp only [List.append_nil]
  constructor
  · rintro hnone before captures ⟨rest, htext, hm⟩
    rw [hnone before rest htext] at hm
    cases hm
  · rintro hnone before rest rfl
    rw [Option.eq_none_iff_forall_ne_some]
    intro m hm
    exact hnone _ _ (matchesAt_of_matchAt? hm).1

theorem MatchesAt.exists_spells {p : Pattern ι} {text before : List Char} {captures : Captures ι}
    (h : p.MatchesAt text before captures) :
    ∃ word after, text = before ++ (word ++ after) ∧
      p.Spells before.reverse word after [] captures := by
  obtain ⟨rest, rfl, hm⟩ := h
  obtain ⟨word, after, rfl, hword, -⟩ := exists_spells_of_matchAt? hm
  exact ⟨word, after, rfl, hword⟩

/-! ## Longer texts -/

/-- At one place a pattern has only one way to match. -/
def Unambiguous (p : Pattern ι) : Prop :=
  ∀ before word after word' after' captures captures', word ++ after = word' ++ after' →
    p.Spells before word after [] captures → p.Spells before word' after' [] captures' →
      captures = captures'

/-- No word of a pattern has another one further inside. -/
def Separate (p : Pattern ι) : Prop :=
  ∀ before word after captures before' word' after' captures' u v,
    p.Spells before word after [] captures → p.Spells before' word' after' [] captures' →
      word' = u ++ word ++ v → u = []

/-- Words that begin with a character that they do not have again are separate. -/
theorem separate_of_head {p : Pattern ι} {c : Char}
    (h : ∀ before word after captures, p.Spells before word after [] captures →
      ∃ rest, word = c :: rest ∧ c ∉ rest) : p.Separate := by
  intro before word after captures before' word' after' captures' u v hword hword' hsplit
  obtain ⟨rest, rfl, -⟩ := h _ _ _ _ hword
  obtain ⟨rest', rfl, hnot⟩ := h _ _ _ _ hword'
  cases u with
  | nil => rfl
  | cons d u =>
    obtain ⟨-, hrest⟩ := List.cons.inj hsplit
    exact absurd (by rw [hrest]; simp) hnot

theorem separate_of_length {p : Pattern ι} {n : Nat}
    (h : ∀ before word after captures, p.Spells before word after [] captures →
      word.length = n) : p.Separate := by
  intro before word after captures before' word' after' captures' u v hword hword' hsplit
  have hlength := h _ _ _ _ hword
  have hlength' := h _ _ _ _ hword'
  rw [hsplit, List.length_append, List.length_append] at hlength'
  exact List.eq_nil_of_length_eq_zero (by omega)

theorem matchAt?_of_spells {p : Pattern ι} (hunique : p.Unambiguous) {before word after : List Char}
    {captures : Captures ι} (h : p.Spells before word after [] captures) :
    p.matchAt? ⟨before, word ++ after⟩ = some ⟨before.length, captures⟩ := by
  obtain ⟨⟨start, captures'⟩, hm⟩ := exists_matchAt?_of_spells h
  obtain ⟨word', after', hs, hword', hstart⟩ := exists_spells_of_matchAt? hm
  have hcaptures : captures' = captures := hunique _ _ _ _ _ _ _ hs.symm hword' h
  have hplace : start = before.length := hstart
  rw [hm, hcaptures, hplace]

theorem find?_of_spells {p : Pattern ι} (hunique : p.Unambiguous) {word after : List Char}
    {captures : Captures ι} (h : p.Spells [] word after [] captures) :
    p.find? (word ++ after) = some ⟨0, captures⟩ :=
  find?_eq_some_iff.2 ⟨[], _, rfl, matchAt?_of_spells hunique h,
    fun _ _ _ hlt => absurd hlt (Nat.not_lt_zero _)⟩

/-- A match is found again, with the same captures, in every text that goes on behind a word. A
match further left would reach beyond the shorter text, and so would have the first match inside. -/
theorem find?_append {p : Pattern ι} (hunique : p.Unambiguous) (hseparate : p.Separate)
    {text tail : List Char} (htail : tail.head?.any Text.isWordChar = false) {m : Match ι}
    (h : p.find? text = some m) : p.find? (text ++ tail) = some m := by
  obtain ⟨u, v, rfl, hm, hleft⟩ := find?_eq_some_iff.1 h
  obtain ⟨word, after, rfl, hword, hstart⟩ := exists_spells_of_matchAt? hm
  have hafter : ∀ rest : List Char, (rest ++ tail).head?.any Text.isWordChar =
      rest.head?.any Text.isWordChar := by
    intro rest
    cases rest with
    | nil => exact htail
    | cons c rest => rfl
  refine find?_eq_some_iff.2 ⟨u, word ++ (after ++ tail), by simp, ?_, fun u' v' hs hlt => ?_⟩
  · rw [matchAt?_of_spells hunique (hword.congr_after (hafter after).symm), ← hstart]
  · rw [matchAt?_eq_none_iff]
    rintro word' after' captures' rfl hword'
    rw [← List.append_assoc u', List.append_eq_append_iff] at hs
    rcases hs with ⟨beyond, hreach, -⟩ | ⟨rest, htext, rfl⟩
    · -- the word reaches beyond the shorter text, over the whole of the first match
      rw [List.append_assoc u, List.append_eq_append_iff] at hreach
      rcases hreach with ⟨x, rfl, hinside⟩ | ⟨x, rfl, -⟩
      · have hnil : x = [] := hseparate _ _ _ _ _ _ _ _ x (after ++ beyond) hword hword'
          (by rw [hinside]; simp)
        rw [hnil, List.append_nil] at hlt
        exact Nat.lt_irrefl _ hlt
      · rw [List.length_append] at hlt
        omega
    · have hnone := hleft u' (word' ++ rest) (by rw [htext, List.append_assoc]) hlt
      exact matchAt?_eq_none_iff.1 hnone word' rest captures' rfl (hword'.congr_after (hafter rest))

end Pattern
end ReportPlan
