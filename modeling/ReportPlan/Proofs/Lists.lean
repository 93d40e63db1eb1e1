/-! # Lists and steps that may fail

Facts on the functions that values and texts pass through.

* `AppearsBefore`: an item appears in a list before another one does.
* `pairwise_eraseDups`, `nodup_eraseDups`: what is kept of a list stands in the order of first
  appearances, and is distinct.
* `eraseDups_concat`: one more item is kept unless it is there already.
* `eq_eraseDups_iff`: this order and the members determine what is kept.
* `mem_intercalate`: joined lists hold the members of each part.
* `exists_append_of_length_le`: of two ways to divide a list one divides the longer part too.
* `length_le_of_not_infix`: a word that is not in the first part of a list stands behind that part.
* `head?_any_dropWhile`: what is left behind a run does not go on with it.
* `exists_run`: a list divided behind the run of a class that it begins with.
* `findSome?_erase`: an item without a result does not count in a search.
* `exists_findSome?_earlier`: a search that succeeds more often stops no later.
* `bind_eq_ok_iff`: two steps succeed exactly if both do.
* `ite_error_eq_ok_iff`, `map_eq_ok_iff`, `mapError_eq_ok_iff`: success behind a check, and with
  another result or error.
* `failure?`: the error of steps that fail.
* `failure?_bind`, `failure?_foldlM`: of several such errors the first one counts.
* `guard_eq_some`: a condition that holds lets a computation go on.
* `foldlM_invariant`: what every step of a fold keeps, a fold that does not fail keeps.
* `foldlM_eq_ok`: a fold that does not fail is one whose steps cannot fail.
* `mapM_map_eq_some`: a list whose items are all found again is found again.
-/

set_option autoImplicit false

namespace ReportPlan

variable {α β ε : Type}

/-! ## First appearances -/

/-- An item appears in a list before another one does, which need not appear at all. -/
def AppearsBefore (l : List α) (a b : α) : Prop :=
  ∃ front back, l = front ++ a :: back ∧ b ∉ front ∧ b ≠ a

theorem AppearsBefore.ne {l : List α} {a b : α} (h : AppearsBefore l a b) : a ≠ b := by
  obtain ⟨-, -, -, -, hne⟩ := h
  exact hne.symm

theorem AppearsBefore.cons {l : List α} {a b c : α} (h : AppearsBefore l a b) (hb : b ≠ c) :
    AppearsBefore (c :: l) a b := by
  obtain ⟨front, back, rfl, hfront, hne⟩ := h
  exact ⟨c :: front, back, rfl, List.not_mem_cons_of_ne_of_not_mem hb hfront, hne⟩

theorem AppearsBefore.of_filter {p : α → Bool} {l : List α} {a b : α}
    (h : AppearsBefore (l.filter p) a b) (hb : p b = true) : AppearsBefore l a b := by
  obtain ⟨front, back, hsplit, hfront, hne⟩ := h
  obtain ⟨u, v, rfl, hu, hv⟩ := List.filter_eq_append_iff.1 hsplit
  obtain ⟨w, back', rfl, hw, -⟩ := List.filter_eq_cons_iff.1 hv
  refine ⟨u ++ w, back', by simp, ?_, hne⟩
  rw [List.mem_append]
  rintro (hmem | hmem)
  · exact hfront (hu ▸ List.mem_filter.2 ⟨hmem, hb⟩)
  · exact absurd hb (hw b hmem)

theorem appearsBefore_append_iff {l l' : List α} {a b : α} :
    AppearsBefore (l ++ l') a b ↔ AppearsBefore l a b ∨ b ∉ l ∧ AppearsBefore l' a b := by
  constructor
  · rintro ⟨front, back, hsplit, hfront, hne⟩
    rcases List.append_eq_append_iff.1 hsplit with ⟨w, rfl, hw⟩ | ⟨w, rfl, hw⟩
    · rw [List.mem_append, not_or] at hfront
      exact .inr ⟨hfront.1, w, back, hw, hfront.2, hne⟩
    · cases w with
      | nil => exact .inr ⟨by simpa using hfront, [], back, hw.symm, List.not_mem_nil, hne⟩
      | cons c w =>
        obtain ⟨rfl, -⟩ := List.cons.inj hw
        exact .inl ⟨front, w, rfl, hfront, hne⟩
  · rintro (⟨front, back, rfl, hfront, hne⟩ | ⟨hl, front, back, rfl, hfront, hne⟩)
    · exact ⟨front, back ++ l', by simp, hfront, hne⟩
    · exact ⟨l ++ front, back, by simp, by simp [hl, hfront], hne⟩

theorem AppearsBefore.asymm {l : List α} {a b : α} (h : AppearsBefore l a b) :
    ¬AppearsBefore l b a := by
  rintro ⟨front', back', hsplit', hfront', -⟩
  obtain ⟨front, back, hsplit, hfront, hne⟩ := h
  rcases List.append_eq_append_iff.1 (hsplit.symm.trans hsplit') with ⟨w, rfl, hw⟩ | ⟨w, rfl, hw⟩
  · cases w with
    | nil => exact hne (List.cons.inj hw).1.symm
    | cons c w =>
      obtain ⟨rfl, -⟩ := List.cons.inj hw
      exact hfront' (by simp)
  · cases w with
    | nil => exact hne (List.cons.inj hw).1
    | cons c w =>
      obtain ⟨rfl, -⟩ := List.cons.inj hw
      exact hfront (by simp)

/-- What is kept of a list stands in the order of its first appearances. -/
theorem pairwise_eraseDups [BEq α] [LawfulBEq α] (l : List α) :
    l.eraseDups.Pairwise (AppearsBefore l) := by
  induction hn : l.length using Nat.strongRecOn generalizing l with
  | ind n ih =>
    cases l with
    | nil => exact .nil
    | cons a l =>
      have hshort : (l.filter fun b => !b == a).length < n := by
        have hle := List.length_filter_le (fun b => !b == a) l
        rw [List.length_cons] at hn
        omega
      rw [List.eraseDups_cons, List.pairwise_cons]
      constructor
      · intro b hb
        rw [List.mem_eraseDups, List.mem_filter] at hb
        exact ⟨[], l, rfl, List.not_mem_nil, by simpa using hb.2⟩
      · refine (ih _ hshort _ rfl).imp_of_mem fun {b c} _ hc hbefore => ?_
        rw [List.mem_eraseDups, List.mem_filter] at hc
        exact (hbefore.of_filter hc.2).cons (by simpa using hc.2)

theorem nodup_eraseDups [BEq α] [LawfulBEq α] (l : List α) : l.eraseDups.Nodup :=
  (pairwise_eraseDups l).imp AppearsBefore.ne

theorem eraseDups_eq_nil_iff [BEq α] [LawfulBEq α] {l : List α} : l.eraseDups = [] ↔ l = [] := by
  cases l with
  | nil => simp
  | cons a l => simp [List.eraseDups_cons]

/-- One more item is kept unless it is there already. -/
theorem eraseDups_concat [DecidableEq α] (l : List α) (a : α) :
    (l ++ [a]).eraseDups = if a ∈ l then l.eraseDups else l.eraseDups ++ [a] := by
  rw [List.eraseDups_append, List.cons_removeAll, List.contains_eq_mem]
  by_cases h : a ∈ l
  · rw [if_neg (by simpa using h), if_pos h]
    exact List.append_nil _
  · rw [if_pos (by simpa using h), if_neg h]
    rfl

/-- No other list has the same members in this order. -/
theorem eq_eraseDups_iff [BEq α] [LawfulBEq α] {l kept : List α} :
    kept = l.eraseDups ↔ (∀ a, a ∈ kept ↔ a ∈ l) ∧ kept.Pairwise (AppearsBefore l) := by
  constructor
  · rintro rfl
    exact ⟨fun a => List.mem_eraseDups, pairwise_eraseDups l⟩
  · rintro ⟨hmem, hordered⟩
    have hperm : kept.Perm l.eraseDups :=
      (List.perm_ext_iff_of_nodup (hordered.imp AppearsBefore.ne) (nodup_eraseDups l)).2
        fun a => (hmem a).trans List.mem_eraseDups.symm
    exact hperm.eq_of_pairwise (fun a b _ _ hab hba => absurd hba hab.asymm) hordered
      (pairwise_eraseDups l)

/-! ## Parts of lists -/

theorem mem_intercalate {a : α} {sep part : List α} {parts : List (List α)} (hpart : part ∈ parts)
    (ha : a ∈ part) : a ∈ List.intercalate sep parts := by
  induction parts with
  | nil => cases hpart
  | cons first rest ih =>
    cases rest with
    | nil =>
      rw [List.intercalate_singleton, ← List.mem_singleton.1 hpart]
      exact ha
    | cons second rest =>
      rw [List.intercalate_cons_cons, List.mem_append, List.mem_append]
      rcases List.mem_cons.1 hpart with rfl | hrest
      · exact Or.inl (Or.inl ha)
      · exact Or.inr (ih hrest)

theorem exists_append_of_length_le {u v u' v' : List α} (h : u ++ v = u' ++ v')
    (hle : u'.length ≤ u.length) : ∃ w, u = u' ++ w ∧ v' = w ++ v := by
  rcases List.append_eq_append_iff.1 h with ⟨w, rfl, rfl⟩ | ⟨w, rfl, rfl⟩
  · rw [List.length_append] at hle
    obtain rfl : w = [] := List.eq_nil_of_length_eq_zero (by omega)
    exact ⟨[], by simp, rfl⟩
  · exact ⟨w, rfl, rfl⟩

/-- A word whose first item does not come again in it, and that is not in the first part of a list,
does not begin in that part if the rest begins with the same item. -/
theorem length_le_of_not_infix {a : α} {word front rest u v : List α} (ha : a ∉ word)
    (hfront : ¬a :: word <:+: front) (h : front ++ a :: rest = u ++ (a :: word ++ v)) :
    front.length ≤ u.length := by
  refine Nat.le_of_not_lt fun hlt => ?_
  obtain ⟨w, rfl, hw⟩ := exists_append_of_length_le h (Nat.le_of_lt hlt)
  cases w with
  | nil => simp at hlt
  | cons b w =>
    obtain ⟨rfl, hrest⟩ := List.cons.inj hw
    by_cases hle : word.length ≤ w.length
    · obtain ⟨x, rfl, -⟩ := exists_append_of_length_le hrest.symm hle
      exact hfront ⟨u, x, by simp⟩
    · obtain ⟨x, rfl, hx⟩ := exists_append_of_length_le hrest (Nat.le_of_not_le hle)
      cases x with
      | nil => simp at hle
      | cons c x =>
        obtain ⟨rfl, -⟩ := List.cons.inj hx
        exact ha (by simp)

theorem head?_any_dropWhile (p : α → Bool) (l : List α) : (l.dropWhile p).head?.any p = false := by
  cases hrest : l.dropWhile p with
  | nil => rfl
  | cons a rest =>
    have hhead := List.head?_dropWhile_not p l
    rw [hrest] at hhead
    simpa using hhead

/-- A member of a class begins a run of the class, which the rest does not continue. -/
theorem exists_run {p : α → Bool} {a : α} (ha : p a = true) (l : List α) :
    ∃ run rest, a :: l = run ++ rest ∧ (run ≠ [] ∧ ∀ b ∈ run, p b = true) ∧
      rest.head?.any p = false := by
  refine ⟨a :: l.takeWhile p, l.dropWhile p, ?_, ⟨List.cons_ne_nil _ _, ?_⟩,
    head?_any_dropWhile p l⟩
  · rw [List.cons_append, List.takeWhile_append_dropWhile]
  · exact List.forall_mem_cons.2 ⟨ha, List.all_eq_true.1 List.all_takeWhile⟩

/-- An item without a result may be left out of a search for the first result. -/
theorem findSome?_erase [BEq α] [LawfulBEq α] {f : α → Option β} {a : α} (ha : f a = none)
    (l : List α) : (l.erase a).findSome? f = l.findSome? f := by
  induction l with
  | nil => rfl
  | cons b l ih =>
    by_cases hb : b = a
    · rw [hb, List.erase_cons_head, List.findSome?_cons, ha]
    · rw [List.erase_cons_tail (by simpa using hb), List.findSome?_cons, List.findSome?_cons, ih]

/-- A search for the first result stops no later if every item that had a result has one still. -/
theorem exists_findSome?_earlier [BEq α] [LawfulBEq α] {f g : α → Option β} {l : List α} {b : β}
    (hfg : ∀ a b, f a = some b → ∃ b', g a = some b') (h : l.findSome? f = some b) :
    ∃ a ∈ l, ∃ a' ∈ l, ∃ b', f a = some b ∧ g a' = some b' ∧ l.findSome? g = some b' ∧
      l.idxOf a' ≤ l.idxOf a := by
  induction l with
  | nil => cases h
  | cons x l ih =>
    cases hx : g x with
    | some b' =>
      obtain ⟨a, ha, hfa⟩ := List.exists_of_findSome?_eq_some h
      refine ⟨a, ha, x, List.mem_cons_self, b', hfa, hx, by simp [hx], ?_⟩
      rw [List.idxOf_cons_self]
      exact Nat.zero_le _
    | none =>
      have hfx : f x = none := by
        rw [Option.eq_none_iff_forall_ne_some]
        intro c hc
        obtain ⟨b', hb'⟩ := hfg x c hc
        rw [hx] at hb'
        cases hb'
      rw [List.findSome?_cons_of_isNone (by simp [hfx])] at h
      obtain ⟨a, ha, a', ha', b', hfa, hga, hfind, hle⟩ := ih h
      have hne : ∀ y z : β, f a = some y → g a' = some z → x ≠ a ∧ x ≠ a' := by
        intro y z hy hz
        refine ⟨fun heq => ?_, fun heq => ?_⟩
        · rw [heq, hy] at hfx
          cases hfx
        · rw [heq, hz] at hx
          cases hx
      obtain ⟨hxa, hxa'⟩ := hne b b' hfa hga
      refine ⟨a, List.mem_cons_of_mem _ ha, a', List.mem_cons_of_mem _ ha', b', hfa, hga, ?_, ?_⟩
      · rw [List.findSome?_cons_of_isNone (by simp [hx])]
        exact hfind
      · rw [List.idxOf_cons, List.idxOf_cons, beq_false_of_ne hxa, beq_false_of_ne hxa']
        exact Nat.succ_le_succ hle

/-! ## Steps that may fail -/

theorem bind_eq_ok_iff {x : Except ε α} {f : α → Except ε β} {b : β} :
    x >>= f = .ok b ↔ ∃ a, x = .ok a ∧ f a = .ok b := by
  cases x with
  | error e => simp [bind, Except.bind]
  | ok a => simp [bind, Except.bind]

theorem ite_error_eq_ok_iff {p : Prop} [Decidable p] {e : ε} {x : Except ε α} {a : α} :
    (if p then .error e else x) = .ok a ↔ ¬p ∧ x = .ok a := by
  split
  · rename_i hp
    exact iff_of_false nofun fun h => h.1 hp
  · rename_i hp
    exact (and_iff_right hp).symm

theorem mapError_eq_ok_iff {ε' : Type} {x : Except ε α} {f : ε → ε'} {a : α} :
    x.mapError f = .ok a ↔ x = .ok a := by
  cases x with
  | error e => exact iff_of_false nofun nofun
  | ok b =>
    show (.ok b : Except ε' α) = .ok a ↔ _
    rw [Except.ok.injEq, Except.ok.injEq]

theorem map_eq_ok_iff {x : Except ε α} {f : α → β} {b : β} :
    x.map f = .ok b ↔ ∃ a, x = .ok a ∧ b = f a := by
  cases x with
  | error e => simp [Except.map]
  | ok a => simp [Except.map, eq_comm]

theorem toOption_eq_some_iff {x : Except ε α} {a : α} : x.toOption = some a ↔ x = .ok a := by
  cases x with
  | error e => simp [Except.toOption]
  | ok b => simp [Except.toOption]

/-- The error of steps that fail. -/
def failure? : Except ε α → Option ε
  | .ok _ => none
  | .error e => some e

theorem failure?_eq_some_iff {x : Except ε α} {e : ε} : failure? x = some e ↔ x = .error e := by
  cases x with
  | error e' => simp [failure?]
  | ok a => simp [failure?]

theorem failure?_eq_none_iff {x : Except ε α} : failure? x = none ↔ ∃ a, x = .ok a := by
  cases x with
  | error e => simp [failure?]
  | ok a => simp [failure?]

/-- Of two steps, the second of which fails by itself, the first failure counts. -/
theorem failure?_bind {x : Except ε α} {f : α → Except ε β} {second : Option ε}
    (h : ∀ a, failure? (f a) = second) : failure? (x >>= f) = (failure? x).or second := by
  cases x with
  | error e => rfl
  | ok a => exact h a

theorem failure?_mapError {ε' : Type} {x : Except ε α} {f : ε → ε'} :
    failure? (x.mapError f) = (failure? x).map f := by
  cases x with
  | error e => rfl
  | ok a => rfl

theorem failure?_map {x : Except ε α} {f : α → β} : failure? (x.map f) = failure? x := by
  cases x with
  | error e => rfl
  | ok a => rfl

theorem failure?_bind_pure {x : Except ε α} {g : α → β} :
    failure? (do return g (← x)) = failure? x := by
  cases x with
  | error e => rfl
  | ok a => rfl

/-- A fold whose steps fail by the item alone fails at the first item that has a fault. -/
theorem failure?_foldlM {f : β → α → Except ε β} {fault? : α → Option ε}
    (hstep : ∀ b a, failure? (f b a) = fault? a) (l : List α) (b : β) :
    failure? (l.foldlM f b) = l.findSome? fault? := by
  induction l generalizing b with
  | nil => rfl
  | cons a l ih =>
    rw [List.foldlM_cons, failure?_bind fun b' => ih b', hstep, List.findSome?_cons]
    cases fault? a with
    | none => rfl
    | some e => rfl

theorem guard_eq_some {p : Prop} [Decidable p] (h : p) : (guard p : Option Unit) = some () :=
  if_pos h

/-- A property that every step keeps holds at the end if it holds at the start. -/
theorem foldlM_invariant {f : β → α → Except ε β} {P : β → Prop}
    (hstep : ∀ b a b', P b → f b a = .ok b' → P b') {l : List α} {b b' : β} (hb : P b)
    (h : l.foldlM f b = .ok b') : P b' := by
  induction l generalizing b with
  | nil =>
    cases h
    exact hb
  | cons a l ih =>
    rw [List.foldlM_cons, bind_eq_ok_iff] at h
    obtain ⟨b₁, hfirst, hrest⟩ := h
    exact ih (hstep b a b₁ hb hfirst) hrest

/-- A fold that does not fail has met no item that fails, and gives what the steps give that a step
without failure is known to be. -/
theorem foldlM_eq_ok {f : β → α → Except ε β} {g : β → α → β} {P : α → Prop}
    (hstep : ∀ b a b', f b a = .ok b' → P a ∧ b' = g b a) {l : List α} {b b' : β}
    (h : l.foldlM f b = .ok b') : (∀ a ∈ l, P a) ∧ b' = l.foldl g b := by
  induction l generalizing b with
  | nil =>
    cases h
    exact ⟨fun _ ha => absurd ha List.not_mem_nil, rfl⟩
  | cons a l ih =>
    rw [List.foldlM_cons, bind_eq_ok_iff] at h
    obtain ⟨b₁, hfirst, hrest⟩ := h
    obtain ⟨ha, rfl⟩ := hstep b a b₁ hfirst
    obtain ⟨hl, hresult⟩ := ih hrest
    exact ⟨List.forall_mem_cons.2 ⟨ha, hl⟩, hresult⟩

/-- A list whose items are written and each found again is found again. -/
theorem mapM_map_eq_some {f : β → Option α} {g : α → β} {l : List α}
    (h : ∀ a ∈ l, f (g a) = some a) : (l.map g).mapM f = some l := by
  induction l with
  | nil => rfl
  | cons a l ih =>
    have hrest := ih fun b hb => h b (List.mem_cons_of_mem _ hb)
    rw [List.map_cons, List.mapM_cons, h a List.mem_cons_self, hrest]
    rfl

end ReportPlan
