import ReportPlan.Json.Basic

/-! # Reading JSON

A text is first cut into tokens, and the tokens are then put together by a machine with a stack:
one frame for every list or object that is still open.

* `Token`, `tokens?`: the tokens of a text, if it has no others.
* `Frame`, `State`, `step?`: the machine and its step on one token.
* `ofText?`: the value that a text writes.
-/

set_option autoImplicit false

namespace ReportPlan.Json

/-! ## Tokens -/

inductive Token where
  | openList
  | closeList
  | openObject
  | closeObject
  | comma
  | colon
  | null
  | bool (b : Bool)
  | number (n : Numeral)
  | text (s : String)
  deriving DecidableEq

def isGap (c : Char) : Bool :=
  c = ' ' || c = '\t' || c = '\n' || c = '\r'

/-- The value of a hexadecimal digit in either letter case. -/
def hexValue? (c : Char) : Option Nat :=
  if '0' ≤ c ∧ c ≤ '9' then some (c.toNat - '0'.toNat)
  else if 'a' ≤ c ∧ c ≤ 'f' then some (c.toNat - 'a'.toNat + 10)
  else if 'A' ≤ c ∧ c ≤ 'F' then some (c.toNat - 'A'.toNat + 10)
  else none

def codeUnit? (a b c d : Char) : Option Nat := do
  let a ← hexValue? a
  let b ← hexValue? b
  let c ← hexValue? c
  let d ← hexValue? d
  some (((a * 16 + b) * 16 + c) * 16 + d)

/-- A part of a quoted string: a character, or the code unit of a `\u` escape. -/
inductive Piece where
  | char (c : Char)
  | unit (n : Nat)

def shortEscape? (c : Char) : Option Char :=
  if c = '"' || c = '\\' || c = '/' then some c
  else if c = 'b' then some '\x08'
  else if c = 'f' then some '\x0c'
  else if c = 'n' then some '\n'
  else if c = 'r' then some '\r'
  else if c = 't' then some '\t'
  else none

/-- The parts of a string up to its closing quote, and the rest after it. -/
def pieces? : List Char → Option (List Piece × List Char)
  | [] => none
  | '"' :: rest => some ([], rest)
  | '\\' :: 'u' :: a :: b :: c :: d :: rest =>
    match codeUnit? a b c d, pieces? rest with
    | some n, some (ps, left) => some (.unit n :: ps, left)
    | _, _ => none
  | '\\' :: e :: rest =>
    match shortEscape? e, pieces? rest with
    | some c, some (ps, left) => some (.char c :: ps, left)
    | _, _ => none
  | c :: rest =>
    if c = '\\' || c.toNat < 0x20 then none
    else (pieces? rest).map fun (ps, left) => (.char c :: ps, left)

/-- The characters of the parts of a string. Two code units of the surrogate ranges make one
character; alone, they make none. -/
def characters? : List Piece → Option (List Char)
  | [] => some []
  | .char c :: rest => (characters? rest).map (c :: ·)
  | .unit n :: rest =>
    if n < 0xD800 ∨ 0xE000 ≤ n then (characters? rest).map (Char.ofNat n :: ·)
    else if n < 0xDC00 then
      match rest with
      | .unit m :: rest =>
        if 0xDC00 ≤ m ∧ m < 0xE000 then
          (characters? rest).map
            (Char.ofNat (0x10000 + (n - 0xD800) * 0x400 + (m - 0xDC00)) :: ·)
        else none
      | _ => none
    else none

/-- The string after an opening quote, and the rest after it. -/
def readText? (s : List Char) : Option (String × List Char) := do
  let (ps, rest) ← pieces? s
  let cs ← characters? ps
  some (String.ofList cs, rest)

/-- Takes the rest of a word off the front of a text. -/
def readWord? (word : List Char) (token : Token) (s : List Char) : Option (Token × List Char) :=
  if word.isPrefixOf s then some (token, s.drop word.length) else none

/-- The token at the front of a text without leading blanks. -/
def token? : List Char → Option (Token × List Char)
  | [] => none
  | '[' :: rest => some (.openList, rest)
  | ']' :: rest => some (.closeList, rest)
  | '\x7b' :: rest => some (.openObject, rest)
  | '\x7d' :: rest => some (.closeObject, rest)
  | ',' :: rest => some (.comma, rest)
  | ':' :: rest => some (.colon, rest)
  | '"' :: rest => (readText? rest).map fun (s, left) => (.text s, left)
  | 'n' :: rest => readWord? ['u', 'l', 'l'] .null rest
  | 't' :: rest => readWord? ['r', 'u', 'e'] (.bool true) rest
  | 'f' :: rest => readWord? ['a', 'l', 's', 'e'] (.bool false) rest
  | s => (Numeral.read? s).map fun (n, left) => (.number n, left)

/-- The tokens of a text. Every token takes at least one character, so the text gets shorter. -/
def tokens? (s : List Char) : Option (List Token) :=
  let s' := s.dropWhile isGap
  if s'.isEmpty then some []
  else
    match token? s' with
    | none => none
    | some (token, rest) =>
      if rest.length < s.length then (tokens? rest).map (token :: ·) else none
termination_by s.length

/-! ## Values -/

/-- A list or object that is still open: what it holds so far, last item first, and for an object
the key whose value is being read. -/
inductive Frame where
  | list (items : List Json)
  | object (entries : List (String × Json)) (key : String)

inductive State where
  /-- A value. -/
  | value (stack : List Frame)
  /-- The first item of a list, or its end. -/
  | firstItem (stack : List Frame)
  /-- The first key of an object, or its end. -/
  | firstKey (stack : List Frame)
  /-- A key, in an object with some entries. -/
  | nextKey (entries : List (String × Json)) (stack : List Frame)
  /-- The colon after a key. -/
  | afterKey (entries : List (String × Json)) (key : String) (stack : List Frame)
  /-- A comma, or the end of the innermost open list or object. -/
  | afterItem (frame : Frame) (stack : List Frame)
  /-- Nothing: the value is complete. -/
  | finished (value : Json)

/-- A value is complete: it becomes an item of the innermost open list or object. -/
def complete (value : Json) : List Frame → State
  | [] => .finished value
  | .list items :: stack => .afterItem (.list (value :: items)) stack
  | .object entries key :: stack => .afterItem (.object ((key, value) :: entries) key) stack

def begin? (stack : List Frame) : Token → Option State
  | .openList => some (.firstItem stack)
  | .openObject => some (.firstKey stack)
  | .null => some (complete .null stack)
  | .bool b => some (complete (.bool b) stack)
  | .number n => some (complete (.number n) stack)
  | .text s => some (complete (.text s) stack)
  | _ => none

def step? (state : State) (token : Token) : Option State :=
  match state, token with
  | .value stack, t => begin? stack t
  | .firstItem stack, .closeList => some (complete (.list []) stack)
  | .firstItem stack, t => begin? (.list [] :: stack) t
  | .firstKey stack, .closeObject => some (complete (.object []) stack)
  | .firstKey stack, .text key => some (.afterKey [] key stack)
  | .nextKey entries stack, .text key => some (.afterKey entries key stack)
  | .afterKey entries key stack, .colon => some (.value (.object entries key :: stack))
  | .afterItem (.list items) stack, .comma => some (.value (.list items :: stack))
  | .afterItem (.list items) stack, .closeList => some (complete (.list items.reverse) stack)
  | .afterItem (.object entries _) stack, .comma => some (.nextKey entries stack)
  | .afterItem (.object entries _) stack, .closeObject =>
    some (complete (.object entries.reverse) stack)
  | _, _ => none

def ofTokens? (ts : List Token) : Option Json :=
  match ts.foldlM step? (.value []) with
  | some (.finished value) => some value
  | _ => none

def ofText? (s : List Char) : Option Json :=
  (tokens? s).bind ofTokens?

end ReportPlan.Json
