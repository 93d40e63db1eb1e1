import ReportPlan.Proofs.Json.Tokens

/-! # Written values read back

* `Json.run`: the machine on several tokens.
* `Json.run_tokens`: on the tokens of a value it completes that value, whatever is still open.
* `Json.ofText?_compact`, `Json.ofText?_pretty`: a value whose numbers survive is read from both of
  its texts.
-/

set_option autoImplicit false

namespace ReportPlan.Json

/-! ## The machine -/

/-- The machine on several tokens. -/
def run (state : State) (ts : List Token) : Option State :=
  ts.foldlM step? state

theorem run_cons {state next : State} {t : Token} (ts : List Token)
    (h : step? state t = some next) : run state (t :: ts) = run next ts := by
  rw [run, List.foldlM_cons, h]
  rfl

/-- The first item of a list is read like any other value: no value begins with a closing
bracket. -/
theorem run_firstItem (j : Json) (stack : List Frame) (ts : List Token) :
    run (.firstItem stack) (j.tokens ++ ts) = run (.value (.list [] :: stack)) (j.tokens ++ ts) := by
  match j with
  | .null => rfl
  | .bool _ => rfl
  | .number _ => rfl
  | .text _ => rfl
  | .list [] => rfl
  | .list (_ :: _) => rfl
  | .object [] => rfl
  | .object (_ :: _) => rfl

mutual

theorem run_tokens : ∀ (j : Json) (stack : List Frame) (ts : List Token),
    run (.value stack) (j.tokens ++ ts) = run (complete j stack) ts
  | .null, _, _ => rfl
  | .bool _, _, _ => rfl
  | .number _, _, _ => rfl
  | .text _, _, _ => rfl
  | .list [], _, _ => rfl
  | .list (item :: rest), stack, ts => by
    have hopen : run (.value stack) ((list (item :: rest)).tokens ++ ts) =
        run (.firstItem stack) (item.tokens ++ (itemTokens rest ++ .closeList :: ts)) := by
      rw [tokens]
      simp only [List.cons_append, List.append_assoc, List.nil_append]
      exact run_cons _ rfl
    rw [hopen, run_firstItem, run_tokens item]
    exact run_itemTokens rest [item] stack ts
  | .object [], _, _ => rfl
  | .object ((key, value) :: rest), stack, ts => by
    have hopen : run (.value stack) ((object ((key, value) :: rest)).tokens ++ ts) =
        run (.value (.object [] key :: stack))
          (value.tokens ++ (entryTokens rest ++ .closeObject :: ts)) := by
      rw [tokens]
      simp only [List.cons_append, List.append_assoc, List.nil_append]
      exact (run_cons _ rfl).trans ((run_cons _ rfl).trans (run_cons _ rfl))
    rw [hopen, run_tokens value]
    exact run_entryTokens rest [(key, value)] key stack ts

/-- The items that follow join those that a list already holds. -/
theorem run_itemTokens : ∀ (rest items : List Json) (stack : List Frame) (ts : List Token),
    run (.afterItem (.list items) stack) (itemTokens rest ++ .closeList :: ts) =
      run (complete (.list (items.reverse ++ rest)) stack) ts
  | [], items, stack, ts => by
    rw [itemTokens, List.append_nil]
    exact run_cons _ rfl
  | item :: rest, items, stack, ts => by
    have hcomma : run (.afterItem (.list items) stack) (itemTokens (item :: rest) ++ .closeList :: ts) =
        run (.value (.list items :: stack))
          (item.tokens ++ (itemTokens rest ++ .closeList :: ts)) := by
      rw [itemTokens, List.cons_append, List.append_assoc]
      exact run_cons _ rfl
    rw [hcomma, run_tokens item, complete, run_itemTokens rest]
    simp

theorem run_entryTokens : ∀ (rest entries : List (String × Json)) (last : String)
    (stack : List Frame) (ts : List Token),
    run (.afterItem (.object entries last) stack) (entryTokens rest ++ .closeObject :: ts) =
      run (complete (.object (entries.reverse ++ rest)) stack) ts
  | [], entries, last, stack, ts => by
    rw [entryTokens, List.append_nil]
    exact run_cons _ rfl
  | (key, value) :: rest, entries, last, stack, ts => by
    have hcomma : run (.afterItem (.object entries last) stack)
        (entryTokens ((key, value) :: rest) ++ .closeObject :: ts) =
          run (.value (.object entries key :: stack))
            (value.tokens ++ (entryTokens rest ++ .closeObject :: ts)) := by
      rw [entryTokens]
      simp only [List.cons_append, List.append_assoc]
      exact (run_cons _ rfl).trans ((run_cons _ rfl).trans (run_cons _ rfl))
    rw [hcomma, run_tokens value, complete, run_entryTokens rest]
    simp

end

/-- The tokens of a value write that value. -/
theorem ofTokens?_tokens (j : Json) : ofTokens? j.tokens = some j := by
  have hrun : run (.value []) j.tokens = some (.finished j) := by
    have h := run_tokens j [] []
    rw [List.append_nil] at h
    rw [h]
    rfl
  rw [run] at hrun
  rw [ofTokens?, hrun]

/-! ## Texts -/

/-- A value whose numbers survive is read from its compact text. -/
theorem ofText?_compact {j : Json} (hj : NumbersSurvive j.tokens) :
    ofText? j.compact = some j := by
  have htokens := tokens?_compact j hj numeralEnds_nil (by rw [tokens?]; rfl)
  rw [List.append_nil, List.append_nil] at htokens
  rw [ofText?, htokens, Option.bind_some, ofTokens?_tokens]

/-- A value whose numbers survive is read from its pretty text. -/
theorem ofText?_pretty {j : Json} (hj : NumbersSurvive j.tokens) :
    ofText? j.pretty = some j := by
  have htokens := tokens?_prettyAt j 0 hj numeralEnds_nil (by rw [tokens?]; rfl)
  rw [List.append_nil, List.append_nil] at htokens
  rw [ofText?, pretty, htokens, Option.bind_some, ofTokens?_tokens]

end ReportPlan.Json
