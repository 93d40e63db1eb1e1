import ReportPlan.Proofs.Json.Numerals
import ReportPlan.Proofs.Json.Quoted

/-! # Tokens of written values

Both texts of a value, the compact one and the pretty one, are cut into the same tokens.

* `Json.tokens`: the tokens of a value, with those of the other items of a list, and of the other
  entries of an object, on their own.
* `Json.NumbersSurvive`: all numbers of a value are read as they are written.
* `tokens?_cons`, `tokens?_gap`: what is behind the first token or blank is read on its own.
* `Json.tokens?_compact`, `Json.tokens?_prettyAt`: the texts of a value.
-/

set_option autoImplicit false

namespace ReportPlan.Json

/-! ## Tokens of values -/

mutual

/-- The tokens of a value. -/
def tokens : Json → List Token
  | null => [.null]
  | bool b => [.bool b]
  | number n => [.number n]
  | text s => [.text s]
  | list [] => [.openList, .closeList]
  | list (item :: rest) => .openList :: (item.tokens ++ (itemTokens rest ++ [.closeList]))
  | object [] => [.openObject, .closeObject]
  | object ((key, value) :: rest) =>
    .openObject :: .text key :: .colon :: (value.tokens ++ (entryTokens rest ++ [.closeObject]))

/-- The tokens of the items of a list after the first. -/
def itemTokens : List Json → List Token
  | [] => []
  | item :: rest => .comma :: (item.tokens ++ itemTokens rest)

/-- The tokens of the entries of an object after the first. -/
def entryTokens : List (String × Json) → List Token
  | [] => []
  | (key, value) :: rest => .comma :: .text key :: .colon :: (value.tokens ++ entryTokens rest)

end

/-- Whether all numbers among some tokens are read as they are written. -/
def NumbersSurvive (ts : List Token) : Prop :=
  ∀ n, .number n ∈ ts → n.Survives

theorem numbersSurvive_append {ts us : List Token} :
    NumbersSurvive (ts ++ us) ↔ NumbersSurvive ts ∧ NumbersSurvive us := by
  simp only [NumbersSurvive, List.mem_append]
  constructor
  · intro h
    exact ⟨fun n hn => h n (.inl hn), fun n hn => h n (.inr hn)⟩
  · rintro ⟨hts, hus⟩ n (hn | hn)
    · exact hts n hn
    · exact hus n hn

theorem NumbersSurvive.tail {t : Token} {ts : List Token} (h : NumbersSurvive (t :: ts)) :
    NumbersSurvive ts :=
  fun n hn => h n (List.mem_cons_of_mem _ hn)

section Numbers

variable {n : Numeral}

theorem number_mem_itemTokens {items : List Json} :
    .number n ∈ itemTokens items ↔ ∃ j ∈ items, .number n ∈ j.tokens := by
  induction items with
  | nil => simp [itemTokens]
  | cons item rest ih => simp [itemTokens, ih]

theorem number_mem_entryTokens {entries : List (String × Json)} :
    .number n ∈ entryTokens entries ↔ ∃ e ∈ entries, .number n ∈ e.2.tokens := by
  induction entries with
  | nil => simp [entryTokens]
  | cons entry rest ih => simp [entryTokens, ih]

/-- The numbers of a list are those of its items. -/
theorem number_mem_list {items : List Json} :
    .number n ∈ (list items).tokens ↔ ∃ j ∈ items, .number n ∈ j.tokens := by
  cases items with
  | nil => simp [tokens]
  | cons item rest => simp [tokens, number_mem_itemTokens]

/-- The numbers of an object are those of its values. -/
theorem number_mem_object {entries : List (String × Json)} :
    .number n ∈ (object entries).tokens ↔ ∃ e ∈ entries, .number n ∈ e.2.tokens := by
  cases entries with
  | nil => simp [tokens]
  | cons entry rest => simp [tokens, number_mem_entryTokens]

end Numbers

theorem numbersSurvive_null : NumbersSurvive null.tokens := by
  simp [NumbersSurvive, tokens]

theorem numbersSurvive_text (s : String) : NumbersSurvive (text s).tokens := by
  simp [NumbersSurvive, tokens]

theorem numbersSurvive_number {n : Numeral} (h : n.Survives) : NumbersSurvive (number n).tokens := by
  simp [NumbersSurvive, tokens, h]

theorem numbersSurvive_list {items : List Json} (h : ∀ j ∈ items, NumbersSurvive j.tokens) :
    NumbersSurvive (list items).tokens := by
  intro n hn
  obtain ⟨j, hj, hnumber⟩ := number_mem_list.1 hn
  exact h j hj n hnumber

theorem numbersSurvive_object {entries : List (String × Json)}
    (h : ∀ e ∈ entries, NumbersSurvive e.2.tokens) : NumbersSurvive (object entries).tokens := by
  intro n hn
  obtain ⟨e, he, hnumber⟩ := number_mem_object.1 hn
  exact h e he n hnumber

/-! ## The first token of a text -/

/-- Blanks before a token do not matter. -/
theorem tokens?_gap {c : Char} {s : List Char} {ts : List Token} (hc : isGap c = true)
    (h : tokens? s = some ts) : tokens? (c :: s) = some ts := by
  rw [tokens?] at h ⊢
  rw [List.dropWhile_cons, if_pos hc]
  by_cases hempty : (s.dropWhile isGap).isEmpty = true
  · rw [if_pos hempty] at h ⊢
    exact h
  · rw [if_neg hempty] at h ⊢
    cases htoken : token? (s.dropWhile isGap) with
    | none =>
      rw [htoken] at h
      cases h
    | some p =>
      simp only [htoken, Option.ite_none_right_eq_some] at h ⊢
      exact ⟨Nat.lt_succ_of_lt h.1, h.2⟩

theorem tokens?_gaps {gaps s : List Char} {ts : List Token} (hgaps : ∀ c ∈ gaps, isGap c = true)
    (h : tokens? s = some ts) : tokens? (gaps ++ s) = some ts := by
  induction gaps with
  | nil => exact h
  | cons c gaps ih =>
    exact tokens?_gap (hgaps c List.mem_cons_self)
      (ih fun d hd => hgaps d (List.mem_cons_of_mem _ hd))

theorem tokens?_cons {c : Char} {s rest : List Char} {t : Token} {ts : List Token}
    (hc : isGap c = false) (htoken : token? (c :: s) = some (t, rest))
    (hshort : rest.length ≤ s.length) (h : tokens? rest = some ts) :
    tokens? (c :: s) = some (t :: ts) := by
  have hdrop : (c :: s).dropWhile isGap = c :: s := by
    rw [List.dropWhile_cons, hc]
    rfl
  have hless : rest.length < (c :: s).length := Nat.lt_succ_of_le hshort
  rw [tokens?]
  simp only [hdrop, List.isEmpty_cons, Bool.false_eq_true, if_false, htoken, if_pos hless, h,
    Option.map_some]

/-- A token of one character. -/
theorem tokens?_mark {c : Char} {s : List Char} {t : Token} {ts : List Token}
    (hc : isGap c = false) (htoken : token? (c :: s) = some (t, s)) (h : tokens? s = some ts) :
    tokens? (c :: s) = some (t :: ts) :=
  tokens?_cons hc htoken (Nat.le_refl _) h

theorem tokens?_quote (key : String) {s : List Char} {ts : List Token} (h : tokens? s = some ts) :
    tokens? (quote key ++ s) = some (.text key :: ts) := by
  have htoken : token? ('"' :: (key.toList.flatMap escape ++ '"' :: s)) = some (.text key, s) := by
    show (readText? _).map _ = _
    rw [readText?_quote]
    rfl
  have htext : quote key ++ s = '"' :: (key.toList.flatMap escape ++ '"' :: s) := by simp [quote]
  rw [htext]
  refine tokens?_cons (by decide) htoken ?_ h
  rw [List.length_append, List.length_cons]
  omega

/-- The first character of a number is none that another token or a blank begins with. -/
theorem ne_of_numberHead {c d : Char} (hc : c = '-' ∨ Text.isPlainDigit c = true)
    (hd : d ≠ '-' ∧ Text.isPlainDigit d = false) : c ≠ d := by
  rintro rfl
  rcases hc with hc | hc
  · exact hd.1 hc
  · rw [hd.2] at hc
    cases hc

theorem token?_number {c : Char} (s : List Char) (hc : c = '-' ∨ Text.isPlainDigit c = true) :
    token? (c :: s) = (Numeral.read? (c :: s)).map fun (n, left) => (.number n, left) := by
  have hne : ∀ d, d ≠ '-' ∧ Text.isPlainDigit d = false → c ≠ d := fun d => ne_of_numberHead hc
  simp [token?, hne '[' (by decide), hne ']' (by decide), hne '\x7b' (by decide),
    hne '\x7d' (by decide), hne ',' (by decide), hne ':' (by decide), hne '"' (by decide),
    hne 'n' (by decide), hne 't' (by decide), hne 'f' (by decide)]

theorem tokens?_number {n : Numeral} (hn : n.Survives) {s : List Char} {ts : List Token}
    (hs : NumeralEnds s) (h : tokens? s = some ts) :
    tokens? (n.text ++ s) = some (.number n :: ts) := by
  have hread := hn.read?_append hs
  obtain ⟨c, rest, htext, hc⟩ := Numeral.exists_head_of_read? hn
  rw [htext, List.cons_append] at hread ⊢
  have hne : ∀ d, d ≠ '-' ∧ Text.isPlainDigit d = false → c ≠ d := fun d => ne_of_numberHead hc
  have hgap : isGap c = false := by
    simp [isGap, hne ' ' (by decide), hne '\t' (by decide), hne '\n' (by decide),
      hne '\r' (by decide)]
  refine tokens?_cons hgap ?_ ?_ h
  · rw [token?_number _ hc, hread]
    rfl
  · rw [List.length_append]
    omega

theorem tokens?_null {s : List Char} {ts : List Token} (h : tokens? s = some ts) :
    tokens? (['n', 'u', 'l', 'l'] ++ s) = some (.null :: ts) :=
  tokens?_cons (by decide) rfl (by simp; omega) h

theorem tokens?_bool (b : Bool) {s : List Char} {ts : List Token} (h : tokens? s = some ts) :
    tokens? ((if b then ['t', 'r', 'u', 'e'] else ['f', 'a', 'l', 's', 'e']) ++ s) =
      some (.bool b :: ts) := by
  cases b with
  | true => exact tokens?_cons (by decide) rfl (by simp; omega) h
  | false => exact tokens?_cons (by decide) rfl (by simp; omega) h

/-- A key with its colon, before a value. -/
theorem tokens?_key (key : String) {g s : List Char} {ts : List Token}
    (hg : ∀ c ∈ g, isGap c = true) (h : tokens? s = some ts) :
    tokens? (quote key ++ ':' :: (g ++ s)) = some (.text key :: .colon :: ts) :=
  tokens?_quote key (tokens?_mark (by decide) rfl (tokens?_gaps hg h))

/-- After a number comes its end, or the comma before what follows. -/
theorem numeralEnds_separated {α : Type} {f : α → List Char} (rest : List α) {s : List Char}
    (hs : NumeralEnds s) : NumeralEnds (rest.flatMap (fun a => ',' :: f a) ++ s) := by
  cases rest with
  | nil => exact hs
  | cons a rest => exact numeralEnds_cons (by decide)

/-! ## Compact text -/

theorem compactItems_cons (item : Json) (rest : List Json) :
    compactItems (item :: rest) = item.compact ++ rest.flatMap fun j => ',' :: j.compact := by
  induction rest generalizing item with
  | nil => simp [compactItems]
  | cons next rest ih =>
    rw [compactItems, ih, List.flatMap_cons, List.cons_append]
    exact List.cons_ne_nil next rest

theorem compactEntries_cons (key : String) (value : Json) (rest : List (String × Json)) :
    compactEntries ((key, value) :: rest) =
      quote key ++ ':' :: (value.compact ++
        rest.flatMap fun e => ',' :: (quote e.1 ++ ':' :: e.2.compact)) := by
  induction rest generalizing key value with
  | nil => simp [compactEntries]
  | cons next rest ih =>
    rw [compactEntries, ih, List.flatMap_cons]
    · simp
    · exact List.cons_ne_nil next rest

mutual

theorem tokens?_compact : ∀ (j : Json) {s : List Char} {ts : List Token},
    NumbersSurvive j.tokens → NumeralEnds s → tokens? s = some ts →
      tokens? (j.compact ++ s) = some (j.tokens ++ ts)
  | .null, _, _, _, _, h => by
    rw [compact, tokens]
    exact tokens?_null h
  | .bool b, _, _, _, _, h => by
    rw [compact, tokens]
    exact tokens?_bool b h
  | .number n, _, _, hj, hs, h => by
    rw [compact, tokens]
    exact tokens?_number (hj n (by simp [tokens])) hs h
  | .text t, _, _, _, _, h => by
    rw [compact, tokens]
    exact tokens?_quote t h
  | .list [], _, _, _, _, h => by
    rw [compact, tokens, compactItems]
    exact tokens?_mark (by decide) rfl (tokens?_mark (by decide) rfl h)
  | .list (item :: rest), s, ts, hj, _, h => by
    rw [tokens] at hj
    obtain ⟨hitem, hj⟩ := numbersSurvive_append.1 hj.tail
    obtain ⟨hrest, -⟩ := numbersSurvive_append.1 hj
    have hclose : tokens? (']' :: s) = some (.closeList :: ts) := tokens?_mark (by decide) rfl h
    have hitems := tokens?_compactRest rest hrest (numeralEnds_cons (by decide)) hclose
    have hfirst := tokens?_compact item hitem
      (numeralEnds_separated rest (numeralEnds_cons (by decide))) hitems
    have hopen := tokens?_mark (c := '[') (by decide) rfl hfirst
    simpa [compact, tokens, compactItems_cons] using hopen
  | .object [], _, _, _, _, h => by
    rw [compact, tokens, compactEntries]
    exact tokens?_mark (by decide) rfl (tokens?_mark (by decide) rfl h)
  | .object ((key, value) :: rest), s, ts, hj, _, h => by
    rw [tokens] at hj
    obtain ⟨hvalue, hj⟩ := numbersSurvive_append.1 hj.tail.tail.tail
    obtain ⟨hrest, -⟩ := numbersSurvive_append.1 hj
    have hclose : tokens? ('\x7d' :: s) = some (.closeObject :: ts) :=
      tokens?_mark (by decide) rfl h
    have hentries := tokens?_compactEntries rest hrest (numeralEnds_cons (by decide)) hclose
    have hfirst := tokens?_compact value hvalue
      (numeralEnds_separated rest (numeralEnds_cons (by decide))) hentries
    have hkey := tokens?_key key (List.forall_mem_nil _) hfirst
    have hopen := tokens?_mark (c := '\x7b') (by decide) rfl hkey
    simpa [compact, tokens, compactEntries_cons] using hopen

theorem tokens?_compactRest : ∀ (rest : List Json) {s : List Char} {ts : List Token},
    NumbersSurvive (itemTokens rest) → NumeralEnds s → tokens? s = some ts →
      tokens? (rest.flatMap (fun j => ',' :: j.compact) ++ s) = some (itemTokens rest ++ ts)
  | [], _, _, _, _, h => h
  | item :: rest, s, ts, hj, hs, h => by
    rw [itemTokens] at hj
    obtain ⟨hitem, hrest⟩ := numbersSurvive_append.1 hj.tail
    have hitems := tokens?_compactRest rest hrest hs h
    have hfirst := tokens?_compact item hitem (numeralEnds_separated rest hs) hitems
    have hcomma := tokens?_mark (c := ',') (by decide) rfl hfirst
    simpa [itemTokens] using hcomma

theorem tokens?_compactEntries : ∀ (rest : List (String × Json)) {s : List Char} {ts : List Token},
    NumbersSurvive (entryTokens rest) → NumeralEnds s → tokens? s = some ts →
      tokens? (rest.flatMap (fun e => ',' :: (quote e.1 ++ ':' :: e.2.compact)) ++ s) =
        some (entryTokens rest ++ ts)
  | [], _, _, _, _, h => h
  | (key, value) :: rest, s, ts, hj, hs, h => by
    rw [entryTokens] at hj
    obtain ⟨hvalue, hrest⟩ := numbersSurvive_append.1 hj.tail.tail.tail
    have hentries := tokens?_compactEntries rest hrest hs h
    have hfirst := tokens?_compact value hvalue (numeralEnds_separated rest hs) hentries
    have hkey := tokens?_key key (List.forall_mem_nil _) hfirst
    have hcomma := tokens?_mark (c := ',') (by decide) rfl hkey
    simpa [entryTokens] using hcomma

end

/-! ## Pretty text -/

theorem isGap_space : isGap ' ' = true := by decide

theorem isGap_of_mem_newline {level : Nat} {c : Char} (hc : c ∈ newline level) :
    isGap c = true := by
  rcases List.mem_cons.1 hc with rfl | hc
  · decide
  · rw [List.eq_of_mem_replicate hc]
    decide

/-- A new line before a token does not matter. -/
theorem tokens?_newline (level : Nat) {s : List Char} {ts : List Token} (h : tokens? s = some ts) :
    tokens? (newline level ++ s) = some ts :=
  tokens?_gaps (fun _ hc => isGap_of_mem_newline hc) h

theorem numeralEnds_newline (level : Nat) (s : List Char) : NumeralEnds (newline level ++ s) :=
  numeralEnds_cons (by decide)

theorem numeralEnds_prettyItems {level : Nat} (rest : List Json) {s : List Char}
    (hs : NumeralEnds s) : NumeralEnds (prettyItems level rest ++ s) := by
  cases rest with
  | nil => exact hs
  | cons item rest => exact numeralEnds_cons (by decide)

theorem numeralEnds_prettyEntries {level : Nat} (rest : List (String × Json)) {s : List Char}
    (hs : NumeralEnds s) : NumeralEnds (prettyEntries level rest ++ s) := by
  cases rest with
  | nil => exact hs
  | cons entry rest => exact numeralEnds_cons (by decide)

mutual

theorem tokens?_prettyAt : ∀ (j : Json) (level : Nat) {s : List Char} {ts : List Token},
    NumbersSurvive j.tokens → NumeralEnds s → tokens? s = some ts →
      tokens? (j.prettyAt level ++ s) = some (j.tokens ++ ts)
  | .null, _, _, _, _, _, h => by
    rw [prettyAt, tokens]
    exact tokens?_null h
  | .bool b, _, _, _, _, _, h => by
    rw [prettyAt, tokens]
    exact tokens?_bool b h
  | .number n, _, _, _, hj, hs, h => by
    rw [prettyAt, tokens]
    exact tokens?_number (hj n (by simp [tokens])) hs h
  | .text t, _, _, _, _, _, h => by
    rw [prettyAt, tokens]
    exact tokens?_quote t h
  | .list [], _, _, _, _, _, h => by
    rw [prettyAt, tokens]
    exact tokens?_mark (by decide) rfl (tokens?_mark (by decide) rfl h)
  | .list (item :: rest), level, s, ts, hj, _, h => by
    rw [tokens] at hj
    obtain ⟨hitem, hj⟩ := numbersSurvive_append.1 hj.tail
    obtain ⟨hrest, -⟩ := numbersSurvive_append.1 hj
    have hclose : tokens? (']' :: s) = some (.closeList :: ts) := tokens?_mark (by decide) rfl h
    have hitems := tokens?_prettyItems rest (level + 1) hrest (numeralEnds_newline level _)
      (tokens?_newline level hclose)
    have hfirst := tokens?_prettyAt item (level + 1) hitem
      (numeralEnds_prettyItems rest (numeralEnds_newline level _)) hitems
    have hopen := tokens?_mark (c := '[') (by decide) rfl (tokens?_newline (level + 1) hfirst)
    simpa [prettyAt, tokens] using hopen
  | .object [], _, _, _, _, _, h => by
    rw [prettyAt, tokens]
    exact tokens?_mark (by decide) rfl (tokens?_mark (by decide) rfl h)
  | .object ((key, value) :: rest), level, s, ts, hj, _, h => by
    rw [tokens] at hj
    obtain ⟨hvalue, hj⟩ := numbersSurvive_append.1 hj.tail.tail.tail
    obtain ⟨hrest, -⟩ := numbersSurvive_append.1 hj
    have hclose : tokens? ('\x7d' :: s) = some (.closeObject :: ts) :=
      tokens?_mark (by decide) rfl h
    have hentries := tokens?_prettyEntries rest (level + 1) hrest (numeralEnds_newline level _)
      (tokens?_newline level hclose)
    have hfirst := tokens?_prettyAt value (level + 1) hvalue
      (numeralEnds_prettyEntries rest (numeralEnds_newline level _)) hentries
    have hkey := tokens?_key key (List.forall_mem_singleton.2 isGap_space) hfirst
    have hopen := tokens?_mark (c := '\x7b') (by decide) rfl (tokens?_newline (level + 1) hkey)
    simpa [prettyAt, tokens] using hopen

theorem tokens?_prettyItems : ∀ (rest : List Json) (level : Nat) {s : List Char} {ts : List Token},
    NumbersSurvive (itemTokens rest) → NumeralEnds s → tokens? s = some ts →
      tokens? (prettyItems level rest ++ s) = some (itemTokens rest ++ ts)
  | [], _, _, _, _, _, h => by
    rw [prettyItems, itemTokens]
    exact h
  | item :: rest, level, s, ts, hj, hs, h => by
    rw [itemTokens] at hj
    obtain ⟨hitem, hrest⟩ := numbersSurvive_append.1 hj.tail
    have hitems := tokens?_prettyItems rest level hrest hs h
    have hfirst := tokens?_prettyAt item level hitem (numeralEnds_prettyItems rest hs) hitems
    have hcomma := tokens?_mark (c := ',') (by decide) rfl (tokens?_newline level hfirst)
    simpa [prettyItems, itemTokens] using hcomma

theorem tokens?_prettyEntries : ∀ (rest : List (String × Json)) (level : Nat) {s : List Char}
    {ts : List Token}, NumbersSurvive (entryTokens rest) → NumeralEnds s → tokens? s = some ts →
      tokens? (prettyEntries level rest ++ s) = some (entryTokens rest ++ ts)
  | [], _, _, _, _, _, h => by
    rw [prettyEntries, entryTokens]
    exact h
  | (key, value) :: rest, level, s, ts, hj, hs, h => by
    rw [entryTokens] at hj
    obtain ⟨hvalue, hrest⟩ := numbersSurvive_append.1 hj.tail.tail.tail
    have hentries := tokens?_prettyEntries rest level hrest hs h
    have hfirst := tokens?_prettyAt value level hvalue (numeralEnds_prettyEntries rest hs) hentries
    have hkey := tokens?_key key (List.forall_mem_singleton.2 isGap_space) hfirst
    have hcomma := tokens?_mark (c := ',') (by decide) rfl (tokens?_newline level hkey)
    simpa [prettyEntries, entryTokens] using hcomma

end

end ReportPlan.Json
