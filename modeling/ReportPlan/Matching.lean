import ReportPlan.Text.Digit
import ReportPlan.Text.Phrase

/-! # Keyword matching

Keywords are found in a text from left to right, and the search goes on behind the end of each one,
so that occurrences do not overlap.

* `MatchMode`: whether a keyword may be part of a longer word.
* `Span`: a part of a text, in bytes of its UTF-8 form.
* `Occurrence`: a span with the characters on both sides of it.
* `scan`: all occurrences of a keyword.
* `MatchMode.occurrences`: those that the mode accepts. Characters on the sides are looked at after
  the scan, so a refused occurrence still hides those that overlap it.
* `MatchMode.contains`: whether there is one. An empty keyword occurs nowhere in this sense.
-/

set_option autoImplicit false

namespace ReportPlan

/-! ## Modes -/

inductive MatchMode where
  /-- Anywhere, also inside longer words. -/
  | substring
  /-- Only where no letter and no numeral stands directly before or behind. -/
  | wordBoundary
  deriving DecidableEq, Repr

namespace MatchMode

instance : Inhabited MatchMode :=
  ⟨substring⟩

def name : MatchMode → String
  | substring => "substring"
  | wordBoundary => "word_boundary"

/-- The mode that an operator names, in any letter case and with blanks around it. -/
def ofName? (s : String) : Option MatchMode :=
  match s.trimBlanks.lowercase with
  | "substring" => some substring
  | "word_boundary" => some wordBoundary
  | "word-boundary" => some wordBoundary
  | "word" => some wordBoundary
  | _ => none

end MatchMode

/-! ## Occurrences -/

/-- A part of a text: the bytes from `start` on and before `stop`. -/
structure Span where
  start : Nat
  stop : Nat
  deriving DecidableEq, Repr

/-- Whether a span lies within another one. -/
def Span.within (inner outer : Span) : Bool :=
  outer.start ≤ inner.start && inner.stop ≤ outer.stop

/-- A place where a keyword stands, and the characters next to it. -/
structure Occurrence where
  span : Span
  before : Option Char
  after : Option Char
  deriving DecidableEq, Repr

/-- The number of bytes of a text in UTF-8. -/
def byteLength (s : List Char) : Nat :=
  s.foldr (fun c n => c.utf8Size + n) 0

@[simp] theorem byteLength_nil : byteLength [] = 0 := rfl

@[simp] theorem byteLength_cons (c : Char) (s : List Char) :
    byteLength (c :: s) = c.utf8Size + byteLength s := rfl

@[simp] theorem byteLength_append (s t : List Char) :
    byteLength (s ++ t) = byteLength s + byteLength t := by
  induction s with
  | nil => simp
  | cons c s ih => simp [ih, Nat.add_assoc]

/-- The occurrences of a keyword in the rest of a text. `skip` characters still belong to the last
occurrence; `offset` bytes and the character `before` have been passed. -/
def scanFrom (needle : List Char) : Nat → Nat → Option Char → List Char → List Occurrence
  | _, offset, before, [] =>
    if needle.isEmpty then [⟨⟨offset, offset⟩, before, none⟩] else []
  | skip + 1, offset, _, c :: rest => scanFrom needle skip (offset + c.utf8Size) (some c) rest
  | 0, offset, before, c :: rest =>
    if needle.isPrefixOf (c :: rest) then
      ⟨⟨offset, offset + byteLength needle⟩, before, (c :: rest)[needle.length]?⟩ ::
        scanFrom needle (needle.length - 1) (offset + c.utf8Size) (some c) rest
    else scanFrom needle 0 (offset + c.utf8Size) (some c) rest

/-- The occurrences of a keyword that the search from left to right finds. The empty keyword is
found between all characters and at both ends. -/
def scan (needle haystack : List Char) : List Occurrence :=
  scanFrom needle 0 0 none haystack

namespace MatchMode

def accepts (mode : MatchMode) (o : Occurrence) : Bool :=
  match mode with
  | substring => true
  | wordBoundary => !o.before.any Text.isAlphanumeric && !o.after.any Text.isAlphanumeric

def occurrences (mode : MatchMode) (haystack needle : List Char) : List Span :=
  ((scan needle haystack).filter mode.accepts).map (·.span)

/-- Whether a keyword that is not empty occurs in a text. -/
def contains (mode : MatchMode) (haystack needle : List Char) : Bool :=
  !needle.isEmpty && !(mode.occurrences haystack needle).isEmpty

/-- Whether a keyword given as a string occurs in a text. -/
def has (mode : MatchMode) (haystack : List Char) (keyword : String) : Bool :=
  mode.contains haystack keyword.toList

/-- Whether one of several keywords occurs in a text. -/
def hasAny (mode : MatchMode) (haystack : List Char) (keywords : List String) : Bool :=
  keywords.any (mode.has haystack ·)

/-! ## First facts -/

/-- What whole-word matching finds, matching anywhere finds too. -/
theorem occurrences_subset_substring (mode : MatchMode) (haystack needle : List Char) :
    mode.occurrences haystack needle ⊆ substring.occurrences haystack needle := by
  intro span h
  simp only [occurrences, List.mem_map, List.mem_filter] at h ⊢
  obtain ⟨o, ⟨ho, -⟩, rfl⟩ := h
  exact ⟨o, ⟨ho, rfl⟩, rfl⟩

theorem contains_substring_of_contains {mode : MatchMode} {haystack needle : List Char}
    (h : mode.contains haystack needle = true) : substring.contains haystack needle = true := by
  simp only [contains, Bool.and_eq_true, Bool.not_eq_true', List.isEmpty_eq_false_iff] at h ⊢
  refine ⟨h.1, fun hnil => h.2 ?_⟩
  have := occurrences_subset_substring mode haystack needle
  rw [hnil] at this
  exact List.subset_nil.1 this

end MatchMode
end ReportPlan
