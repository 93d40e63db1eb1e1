import ReportPlan.Text.CaseTable

/-! # Letter case of texts

* `lowerChar`, `upperChar`: the full lower and upper case of one character, without regard to its
  neighbours.
* `lowercase`: the lower case of a text. A capital sigma becomes `ς` at the end of a word and `σ`
  elsewhere.
* `capitalize`: the first character in upper case, the rest untouched.
-/

set_option autoImplicit false

namespace ReportPlan.Text

/-- The lower case of a character. Only `İ` has a lower case of two characters. -/
def lowerChar (c : Char) : List Char :=
  if c = 'İ' then ['i', '\u0307']
  else [((shifted? lowerShifts c.toNat).map Char.ofNat).getD c]

/-- The upper case of a character: one to three characters. -/
def upperChar (c : Char) : List Char :=
  match upperExpansions.lookup c.toNat with
  | some codes => codes.map Char.ofNat
  | none => [((shifted? upperShifts c.toNat).map Char.ofNat).getD c]

/-- Whether the first character that is not passed over is a letter with case. -/
def meetsCased (s : List Char) : Bool :=
  match s.dropWhile isCaseIgnorable with
  | [] => false
  | c :: _ => isCased c

/-- The lower case of a capital sigma between the characters `before` it, nearest first, and the
characters `after` it. -/
def lowerSigma (before after : List Char) : Char :=
  if meetsCased before && !meetsCased after then 'ς' else 'σ'

/-- The lower case of the second part of a text, whose first part is `before`, last character
first. -/
def lowercaseAfter : List Char → List Char → List Char
  | _, [] => []
  | before, c :: rest =>
    (if c = 'Σ' then [lowerSigma before rest] else lowerChar c) ++ lowercaseAfter (c :: before) rest

def lowercase (s : List Char) : List Char :=
  lowercaseAfter [] s

def capitalize : List Char → List Char
  | [] => []
  | c :: rest => upperChar c ++ rest

end ReportPlan.Text
