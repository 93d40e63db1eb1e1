import ReportPlan.Text.Blank
import ReportPlan.Text.Case

/-! # Words and phrases

* `words`: the maximal runs of characters that are not blank.
* `unwords`: words joined by single spaces.
* `normalize`: the form in which queries and dictionary entries are compared: lower case, words
  separated by single spaces, no blank at either end.
* `titleCase`: every word with a capital first letter and the rest in lower case.
* `trim`: a text without the blanks at its ends.

A text is a list of characters here; `String.normalize`, `String.titleCase` and `String.trimBlanks`
are the same functions on strings.
-/

set_option autoImplicit false

namespace ReportPlan.Text

/-! ## Words -/

/-- A word, read backwards, put in front of other words; an empty one is left out. -/
def consWord (word : List Char) (rest : List (List Char)) : List (List Char) :=
  if word.isEmpty then rest else word.reverse :: rest

/-- The words of a text that follows the letters of `word`, last letter first. -/
def wordsAfter : List Char → List Char → List (List Char)
  | word, [] => consWord word []
  | word, c :: rest =>
    if isBlank c then consWord word (wordsAfter [] rest) else wordsAfter (c :: word) rest

/-- The maximal runs of characters that are not blank, in order. -/
def words (s : List Char) : List (List Char) :=
  wordsAfter [] s

def unwords (ws : List (List Char)) : List Char :=
  List.intercalate [' '] ws

/-- Whether a text has no character but blanks. -/
def isBlankText (s : List Char) : Bool :=
  s.all isBlank

theorem wordsAfter_append_blank {b : Char} (hb : isBlank b = true) (s t word : List Char) :
    wordsAfter word (s ++ b :: t) = wordsAfter word s ++ words t := by
  induction s generalizing word with
  | nil => by_cases h : word = [] <;> simp [wordsAfter, hb, consWord, words, h]
  | cons c s ih =>
    by_cases hc : isBlank c = true
    · by_cases h : word = [] <;> simp [wordsAfter, hc, consWord, ih, h]
    · simp [wordsAfter, hc, ih]

theorem words_append_blank {b : Char} (hb : isBlank b = true) (s t : List Char) :
    words (s ++ b :: t) = words s ++ words t :=
  wordsAfter_append_blank hb s t []

/-- Words are not empty and have no blanks. -/
theorem ne_nil_of_mem_wordsAfter {s word : List Char} (hword : word.all (!isBlank ·) = true)
    {w : List Char} (hw : w ∈ wordsAfter word s) : w ≠ [] ∧ w.all (!isBlank ·) = true := by
  induction s generalizing word with
  | nil =>
    rw [wordsAfter, consWord] at hw
    split at hw
    · simp at hw
    · simp_all
  | cons c s ih =>
    rw [wordsAfter] at hw
    split at hw
    · rw [consWord] at hw
      split at hw
      · exact ih (by simp) hw
      · rcases List.mem_cons.1 hw with rfl | hw
        · simp_all
        · exact ih (by simp) hw
    · exact ih (by simp_all) hw

theorem ne_nil_of_mem_words {s w : List Char} (hw : w ∈ words s) :
    w ≠ [] ∧ w.all (!isBlank ·) = true :=
  ne_nil_of_mem_wordsAfter (by simp) hw

/-! ## Normal form, title case and trimming -/

/-- Lower case, single spaces between words, no blanks at the ends. -/
def normalize (s : List Char) : List Char :=
  lowercase (unwords (words s))

/-- Every word with a capital first letter and the rest in lower case. -/
def titleCase (s : List Char) : List Char :=
  unwords ((words s).map fun w => capitalize (lowercase w))

/-- The text without blanks at its start. -/
def trimStart (s : List Char) : List Char :=
  s.dropWhile isBlank

def trim (s : List Char) : List Char :=
  (trimStart (trimStart s).reverse).reverse

end ReportPlan.Text

namespace String

open ReportPlan.Text

/-- `normalize` on strings. -/
def normalize (s : String) : String :=
  ofList (ReportPlan.Text.normalize s.toList)

/-- `titleCase` on strings. -/
def titleCase (s : String) : String :=
  ofList (ReportPlan.Text.titleCase s.toList)

/-- `trim` on strings. -/
def trimBlanks (s : String) : String :=
  ofList (ReportPlan.Text.trim s.toList)

/-- `lowercase` on strings. -/
def lowercase (s : String) : String :=
  ofList (ReportPlan.Text.lowercase s.toList)

/-- Whether a string has no character but blanks. -/
def isBlankText (s : String) : Bool :=
  ReportPlan.Text.isBlankText s.toList

end String
