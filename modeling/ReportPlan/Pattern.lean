import ReportPlan.Text.Blank
import ReportPlan.Text.Digit
import ReportPlan.Text.Word

/-! # Patterns

A pattern describes a piece of text and names some of its parts. Matching tries the alternatives of
a pattern in order and takes repetitions as long as possible, giving back one character at a time;
the first way to match the whole pattern counts, at the leftmost place where there is one.

* `Cursor`: a place in a text, with what lies before and after it.
* `Pattern`: the patterns, whose captures are labelled by a type `ι`.
* `Pattern.run`: matches a pattern at a cursor and goes on with a continuation; if that fails, the
  next way to match is tried.
* `Pattern.find?`: the leftmost match in a text, with its captures.
-/

set_option autoImplicit false

namespace ReportPlan

/-! ## Cursors and captures -/

/-- A place in a text: the characters before it, nearest first, and those after it. -/
structure Cursor where
  before : List Char
  after : List Char
  deriving DecidableEq, Repr

namespace Cursor

/-- The cursor a number of characters further on. -/
def advance (c : Cursor) (n : Nat) : Cursor :=
  ⟨(c.after.take n).reverse ++ c.before, c.after.drop n⟩

/-- The number of characters before the cursor. -/
def position (c : Cursor) : Nat :=
  c.before.length

/-- Whether a word begins or ends at the cursor. -/
def atEdge (c : Cursor) : Bool :=
  c.before.head?.any Text.isWordChar != c.after.head?.any Text.isWordChar

end Cursor

/-- A part of a text: the number of characters before it, and its characters. -/
structure Capture where
  start : Nat
  text : List Char
  deriving DecidableEq, Repr

/-- The number of characters up to the end of a capture. -/
def Capture.stop (c : Capture) : Nat :=
  c.start + c.text.length

/-- The part of a text between two cursors, the second of which is further on. -/
def Cursor.capture (start stop : Cursor) : Capture :=
  ⟨start.position, start.after.take (stop.position - start.position)⟩

/-- Captures under their labels, the last one first. -/
abbrev Captures (ι : Type) :=
  List (ι × Capture)

/-! ## Patterns -/

inductive Pattern (ι : Type) where
  /-- The empty text. -/
  | nothing
  /-- A given text. -/
  | literal (word : List Char)
  /-- One character of a class. -/
  | one (isMember : Char → Bool)
  /-- Any number of characters of a class. -/
  | many (isMember : Char → Bool)
  /-- One pattern and then another. -/
  | sequence (first second : Pattern ι)
  /-- The first pattern, or else the second. -/
  | either (first second : Pattern ι)
  /-- A pattern whose text is kept under a label. -/
  | capture (label : ι) (inner : Pattern ι)
  /-- The empty text where a word begins or ends. -/
  | edge

namespace Pattern

variable {ι α : Type}

instance : Append (Pattern ι) :=
  ⟨sequence⟩

instance : OrOp (Pattern ι) :=
  ⟨either⟩

def word (s : String) : Pattern ι :=
  literal s.toList

/-- A pattern or, if it does not lead to a match, the empty text. -/
def maybe (p : Pattern ι) : Pattern ι :=
  p ||| nothing

/-- At least one character of a class. -/
def several (isMember : Char → Bool) : Pattern ι :=
  one isMember ++ many isMember

def blanks : Pattern ι :=
  many Text.isBlank

def gap : Pattern ι :=
  several Text.isBlank

def digitRun : Pattern ι :=
  several Text.isDigit

/-- One of several words, the first that leads to a match. -/
def oneOfWords : List String → Pattern ι
  | [] => one fun _ => false
  | [s] => word s
  | s :: rest => word s ||| oneOfWords rest

/-! ## Matching -/

/-- Takes characters of a class as long as possible, and gives them back one at a time until the
continuation succeeds. -/
def runMany (isMember : Char → Bool) (k : Cursor → Option α) (before : List Char) :
    List Char → Option α
  | [] => k ⟨before, []⟩
  | c :: rest =>
    if isMember c then
      (runMany isMember k (c :: before) rest).orElse fun _ => k ⟨before, c :: rest⟩
    else k ⟨before, c :: rest⟩

/-- Matches a pattern at a cursor and continues behind it. -/
def run (p : Pattern ι) (cursor : Cursor) (captures : Captures ι)
    (k : Cursor → Captures ι → Option α) : Option α :=
  match p with
  | nothing => k cursor captures
  | literal word =>
    if word.isPrefixOf cursor.after then k (cursor.advance word.length) captures else none
  | one isMember =>
    match cursor.after with
    | [] => none
    | c :: _ => if isMember c then k (cursor.advance 1) captures else none
  | many isMember => runMany isMember (k · captures) cursor.before cursor.after
  | sequence first second =>
    first.run cursor captures fun cursor captures => second.run cursor captures k
  | either first second =>
    (first.run cursor captures k).orElse fun _ => second.run cursor captures k
  | capture label inner =>
    inner.run cursor captures fun cursor' captures =>
      k cursor' ((label, cursor.capture cursor') :: captures)
  | edge => if cursor.atEdge then k cursor captures else none

/-- A place where a pattern matches: the number of characters before it, and the captures. -/
structure Match (ι : Type) where
  start : Nat
  captures : Captures ι

def matchAt? (p : Pattern ι) (cursor : Cursor) : Option (Match ι) :=
  p.run cursor [] fun _ captures => some ⟨cursor.position, captures⟩

/-- The leftmost match from a cursor on. -/
def findFrom? (p : Pattern ι) (before : List Char) : List Char → Option (Match ι)
  | [] => p.matchAt? ⟨before, []⟩
  | c :: rest => (p.matchAt? ⟨before, c :: rest⟩).orElse fun _ => findFrom? p (c :: before) rest

def find? (p : Pattern ι) (text : List Char) : Option (Match ι) :=
  p.findFrom? [] text

def Match.get? [BEq ι] (m : Match ι) (label : ι) : Option Capture :=
  m.captures.lookup label

/-! ## Equations -/

@[simp] theorem run_nothing (cursor : Cursor) (captures : Captures ι)
    (k : Cursor → Captures ι → Option α) : (nothing : Pattern ι).run cursor captures k =
      k cursor captures := rfl

@[simp] theorem run_append (p q : Pattern ι) (cursor : Cursor) (captures : Captures ι)
    (k : Cursor → Captures ι → Option α) : (p ++ q).run cursor captures k =
      p.run cursor captures fun cursor captures => q.run cursor captures k := rfl

@[simp] theorem run_or (p q : Pattern ι) (cursor : Cursor) (captures : Captures ι)
    (k : Cursor → Captures ι → Option α) : (p ||| q).run cursor captures k =
      (p.run cursor captures k).orElse fun _ => q.run cursor captures k := rfl

/-- A repetition that stops only at the end of the class: nothing before that lets the continuation
succeed. -/
theorem runMany_of_last {isMember : Char → Bool} {k : Cursor → Option α} {a : α}
    (before run rest : List Char) (hrun : run.all isMember = true)
    (hrest : rest.head?.any isMember = false)
    (hk : k ⟨run.reverse ++ before, rest⟩ = some a) :
    runMany isMember k before (run ++ rest) = some a := by
  induction run generalizing before with
  | nil =>
    cases rest with
    | nil => simpa [runMany] using hk
    | cons c rest => simp_all [runMany]
  | cons c run ih =>
    simp only [List.all_cons, Bool.and_eq_true] at hrun
    simp only [List.cons_append, runMany, hrun.1, if_true]
    rw [ih (c :: before) hrun.2 (by simpa using hk)]
    rfl

end Pattern
end ReportPlan
