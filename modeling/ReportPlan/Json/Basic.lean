import ReportPlan.Json.Numeral

/-! # JSON values and their text

* `Json`: a value; the entries of an object keep their order.
* `quote`: the text of a string: quotes, backslashes and control characters are escaped, all other
  characters stand for themselves.
* `Json.compact`: the text without blanks.
* `Json.pretty`: the text with a line for every item, indented by two spaces a level; empty lists
  and objects stay on one line.
* `Json.get?`: the entry of an object under a key. The last one counts.
-/

set_option autoImplicit false

namespace ReportPlan

inductive Json where
  | null
  | bool (b : Bool)
  | number (n : Json.Numeral)
  | text (s : String)
  | list (items : List Json)
  | object (entries : List (String × Json))

namespace Json

instance : Inhabited Json :=
  ⟨null⟩

def integer (n : Int) : Json :=
  number (.integer n)

/-- A floating-point number; infinity becomes null. -/
def floating (x : Binary64) : Json :=
  if x.isFinite then number (.floating x) else null

/-- The value under a key of an object; the last one, if the key occurs several times. -/
def get? (key : String) : Json → Option Json
  | object entries => (entries.reverse.find? fun e => e.1 == key).map (·.2)
  | _ => none

/-! ## Strings -/

/-- A digit of the hexadecimal system in lower case. -/
def hexDigit (n : Nat) : Char :=
  if n < 10 then Char.ofNat ('0'.toNat + n) else Char.ofNat ('a'.toNat + (n - 10))

def escape (c : Char) : List Char :=
  if c = '"' then ['\\', '"']
  else if c = '\\' then ['\\', '\\']
  else if c = '\x08' then ['\\', 'b']
  else if c = '\x0c' then ['\\', 'f']
  else if c = '\n' then ['\\', 'n']
  else if c = '\r' then ['\\', 'r']
  else if c = '\t' then ['\\', 't']
  else if c.toNat < 0x20 then
    ['\\', 'u', '0', '0', hexDigit (c.toNat / 16), hexDigit (c.toNat % 16)]
  else [c]

def quote (s : String) : List Char :=
  '"' :: s.toList.flatMap escape ++ ['"']

/-! ## Compact text -/

mutual

def compact : Json → List Char
  | null => ['n', 'u', 'l', 'l']
  | bool b => if b then ['t', 'r', 'u', 'e'] else ['f', 'a', 'l', 's', 'e']
  | number n => n.text
  | text s => quote s
  | list items => '[' :: compactItems items ++ [']']
  | object entries => '{' :: compactEntries entries ++ ['}']

/-- The items of a list, separated by commas. -/
def compactItems : List Json → List Char
  | [] => []
  | [item] => item.compact
  | item :: rest => item.compact ++ ',' :: compactItems rest

/-- The entries of an object, separated by commas. -/
def compactEntries : List (String × Json) → List Char
  | [] => []
  | [(key, value)] => quote key ++ ':' :: value.compact
  | (key, value) :: rest => quote key ++ ':' :: value.compact ++ ',' :: compactEntries rest

end

/-! ## Pretty text -/

/-- A new line at an indentation level. -/
def newline (level : Nat) : List Char :=
  '\n' :: List.replicate (2 * level) ' '

mutual

/-- The text of a value at an indentation level. -/
def prettyAt (level : Nat) : Json → List Char
  | null => ['n', 'u', 'l', 'l']
  | bool b => if b then ['t', 'r', 'u', 'e'] else ['f', 'a', 'l', 's', 'e']
  | number n => n.text
  | text s => quote s
  | list [] => ['[', ']']
  | list (item :: rest) =>
    '[' :: newline (level + 1) ++ item.prettyAt (level + 1) ++ prettyItems (level + 1) rest ++
      newline level ++ [']']
  | object [] => ['{', '}']
  | object ((key, value) :: rest) =>
    '{' :: newline (level + 1) ++ quote key ++ ':' :: ' ' :: value.prettyAt (level + 1) ++
      prettyEntries (level + 1) rest ++ newline level ++ ['}']

/-- The items of a list after the first, each on a line of its own. -/
def prettyItems (level : Nat) : List Json → List Char
  | [] => []
  | item :: rest => ',' :: newline level ++ item.prettyAt level ++ prettyItems level rest

/-- The entries of an object after the first, each on a line of its own. -/
def prettyEntries (level : Nat) : List (String × Json) → List Char
  | [] => []
  | (key, value) :: rest =>
    ',' :: newline level ++ quote key ++ ':' :: ' ' :: value.prettyAt level ++
      prettyEntries level rest

end

/-- The text of a value with a line for every item. -/
def pretty (j : Json) : List Char :=
  j.prettyAt 0

end Json
end ReportPlan
