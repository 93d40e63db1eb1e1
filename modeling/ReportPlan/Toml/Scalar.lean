import ReportPlan.Calendar.Date
import ReportPlan.Number.Digits
import ReportPlan.Json.Reader
import ReportPlan.Toml.Basic

/-! # Scalars of TOML

Each reader takes a piece off the front of a text and returns it with the rest of the text.

* `skipSpace`, `lineEnd?`, `skipGap?`: blanks, line ends and comments.
* `basicText?`, `literalText?`: strings on one line. `longBasicText?`, `longLiteralText?`: strings
  over several lines.
* `keyPath?`: a key, whose parts are separated by points.
* `moment?`, `floating?`, `integer?`: dates and times, and numbers.
* `scalar?`: any value that is neither an array nor a table.
-/

set_option autoImplicit false

namespace ReportPlan.Toml

/-! ## Blanks, line ends and comments -/

def isSpace (c : Char) : Bool :=
  c = ' ' || c = '\t'

def skipSpace (s : List Char) : List Char :=
  s.dropWhile isSpace

/-- Whether a character may stand in a comment: no control character but the tab. -/
def isPlain (c : Char) : Bool :=
  c = '\t' || (0x20 ≤ c.toNat && c.toNat ≠ 0x7F)

def newline? : List Char → Option (List Char)
  | '\n' :: rest => some rest
  | '\r' :: '\n' :: rest => some rest
  | _ => none

/-- The text behind a comment, if there is one at its front. -/
def skipComment : List Char → List Char
  | '#' :: rest => rest.dropWhile isPlain
  | s => s

/-- The rest of a line, which holds nothing but blanks and a comment. -/
def lineEnd? (s : List Char) : Option (List Char) :=
  match skipComment (skipSpace s) with
  | [] => some []
  | s => newline? s

/-- The text behind blanks, line ends and comments. -/
def skipGap? : List Char → Option (List Char)
  | [] => some []
  | ' ' :: rest => skipGap? rest
  | '\t' :: rest => skipGap? rest
  | '\n' :: rest => skipGap? rest
  | '\r' :: '\n' :: rest => skipGap? rest
  | '#' :: rest => comment rest
  | s => some s
where
  /-- The rest of a comment, and the gap behind it. -/
  comment : List Char → Option (List Char)
    | [] => some []
    | '\n' :: rest => skipGap? rest
    | '\r' :: '\n' :: rest => skipGap? rest
    | c :: rest => if isPlain c then comment rest else none

/-! ## Strings -/

/-- The character with a code of so many hexadecimal digits. -/
def codePoint? (width : Nat) (s : List Char) : Option (Char × List Char) := do
  let ds ← (s.take width).mapM Json.hexValue?
  guard (ds.length = width)
  let n := ds.foldl (fun n d => 16 * n + d) 0
  guard (n < 0xD800 ∨ (0xE000 ≤ n ∧ n < 0x110000))
  some (Char.ofNat n, s.drop width)

/-- The character of an escape, behind its backslash. -/
def escape? : List Char → Option (Char × List Char)
  | 'b' :: rest => some ('\x08', rest)
  | 't' :: rest => some ('\t', rest)
  | 'n' :: rest => some ('\n', rest)
  | 'f' :: rest => some ('\x0c', rest)
  | 'r' :: rest => some ('\r', rest)
  | '"' :: rest => some ('"', rest)
  | '\\' :: rest => some ('\\', rest)
  | 'u' :: rest => codePoint? 4 rest
  | 'U' :: rest => codePoint? 8 rest
  | _ => none

/-- The characters of a string up to its closing quotation mark. -/
def basicText? (s : List Char) : Option (List Char × List Char) :=
  match s with
  | [] => none
  | '"' :: rest => some ([], rest)
  | '\\' :: rest =>
    match escape? rest with
    | none => none
    | some (c, left) =>
      if left.length ≤ rest.length then
        (basicText? left).map fun (cs, left) => (c :: cs, left)
      else none
  | c :: rest =>
    if isPlain c then (basicText? rest).map fun (cs, left) => (c :: cs, left) else none
termination_by s.length
decreasing_by all_goals simp_all; try omega

/-- The characters of a literal string up to its closing apostrophe. -/
def literalText? : List Char → Option (List Char × List Char)
  | [] => none
  | '\'' :: rest => some ([], rest)
  | c :: rest =>
    if isPlain c then (literalText? rest).map fun (cs, left) => (c :: cs, left) else none

/-- The number of quotes at the front of a text. -/
def quoteRun (quote : Char) (s : List Char) : Nat :=
  (s.takeWhile (· = quote)).length

/-- The end of a string over several lines, if it ends here: up to two quotes before the three
closing ones belong to the string. -/
def closing? (quote : Char) (s : List Char) : Option (List Char × List Char) :=
  let run := quoteRun quote s
  if 3 ≤ run then
    let inside := min (run - 3) 2
    some (List.replicate inside quote, s.drop (inside + 3))
  else none

/-- The text behind blanks and line ends. -/
def skipLines : List Char → List Char
  | ' ' :: rest => skipLines rest
  | '\t' :: rest => skipLines rest
  | '\n' :: rest => skipLines rest
  | '\r' :: '\n' :: rest => skipLines rest
  | s => s

/-- The text behind an escaped line end and all blanks and line ends after it. -/
def foldedLine? (s : List Char) : Option (List Char) :=
  (newline? (skipSpace s)).map skipLines

/-- The characters of a string over several lines; a line end is one character. -/
def longBasicText? (s : List Char) : Option (List Char × List Char) :=
  match closing? '"' s with
  | some found => some found
  | none =>
    match s with
    | [] => none
    | '\\' :: rest =>
      match foldedLine? rest with
      | some left => if left.length ≤ rest.length then longBasicText? left else none
      | none =>
        match escape? rest with
        | none => none
        | some (c, left) =>
          if left.length ≤ rest.length then
            (longBasicText? left).map fun (cs, left) => (c :: cs, left)
          else none
    | '\r' :: '\n' :: rest => (longBasicText? rest).map fun (cs, left) => ('\n' :: cs, left)
    | c :: rest =>
      if isPlain c || c = '\n' then
        (longBasicText? rest).map fun (cs, left) => (c :: cs, left)
      else none
termination_by s.length
decreasing_by all_goals simp_all; try omega

def longLiteralText? (s : List Char) : Option (List Char × List Char) :=
  match closing? '\'' s with
  | some found => some found
  | none =>
    match s with
    | [] => none
    | '\r' :: '\n' :: rest => (longLiteralText? rest).map fun (cs, left) => ('\n' :: cs, left)
    | c :: rest =>
      if isPlain c || c = '\n' then
        (longLiteralText? rest).map fun (cs, left) => (c :: cs, left)
      else none
termination_by s.length
decreasing_by all_goals simp_all; try omega

/-- The text behind a line end, if there is one at its front. -/
def skipFirstNewline (s : List Char) : List Char :=
  (newline? s).getD s

def text? : List Char → Option (List Char × List Char)
  | '"' :: '"' :: '"' :: rest => longBasicText? (skipFirstNewline rest)
  | '"' :: rest => basicText? rest
  | '\'' :: '\'' :: '\'' :: rest => longLiteralText? (skipFirstNewline rest)
  | '\'' :: rest => literalText? rest
  | _ => none

/-! ## Keys -/

/-- Whether a character may stand in a key without quotes. -/
def isBareKeyChar (c : Char) : Bool :=
  c.isAlphanum || c = '_' || c = '-'

def keyPart? : List Char → Option (String × List Char)
  | '"' :: rest => (basicText? rest).map fun (cs, left) => (String.ofList cs, left)
  | '\'' :: rest => (literalText? rest).map fun (cs, left) => (String.ofList cs, left)
  | s =>
    let run := s.takeWhile isBareKeyChar
    if run.isEmpty then none else some (String.ofList run, s.drop run.length)

/-- A key has fewer parts than this. -/
def nestingLimit : Nat :=
  80

/-- The parts of a key, at most `most` of them, with blanks around each. -/
def keyParts? : Nat → List Char → Option (List String × List Char)
  | 0, _ => none
  | most + 1, s => do
    let (part, s) ← keyPart? (skipSpace s)
    match skipSpace s with
    | '.' :: rest => do
      let (parts, s) ← keyParts? most rest
      some (part :: parts, s)
    | s => some ([part], s)

def keyPath? (s : List Char) : Option (List String × List Char) :=
  keyParts? (nestingLimit - 1) s

/-! ## Dates and times -/

/-- A number of so many digits, between two bounds. -/
def bounded? (width low high : Nat) (s : List Char) : Option (Nat × List Char) := do
  guard (width ≤ s.length)
  let n ← readNat (s.take width)
  guard (low ≤ n ∧ n ≤ high)
  some (n, s.drop width)

def mark? (c : Char) : List Char → Option (List Char)
  | [] => none
  | d :: rest => if d = c then some rest else none

/-- A date, and its text. -/
def date? (s : List Char) : Option (List Char × List Char) := do
  let (year, s) ← bounded? 4 0 9999 s
  let s ← mark? '-' s
  let (month, s) ← bounded? 2 1 12 s
  let s ← mark? '-' s
  let (day, s) ← bounded? 2 1 (daysInMonth year month) s
  some (padded 4 year ++ '-' :: padded 2 month ++ '-' :: padded 2 day, s)

/-- The fraction of a second, cut to nine digits and without trailing zeros. -/
def timeFraction? : List Char → Option (List Char × List Char)
  | '.' :: rest =>
    let run := rest.takeWhile Text.isPlainDigit
    if run.isEmpty then none
    else
      let kept := ((run.take 9).reverse.dropWhile (· = '0')).reverse
      some (if kept.isEmpty then [] else '.' :: kept, rest.drop run.length)
  | s => some ([], s)

/-- A time of the day, and its text. -/
def time? (s : List Char) : Option (List Char × List Char) := do
  let (hour, s) ← bounded? 2 0 23 s
  let s ← mark? ':' s
  let (minute, s) ← bounded? 2 0 59 s
  let s ← mark? ':' s
  let (second, s) ← bounded? 2 0 60 s
  let (fraction, s) ← timeFraction? s
  some (padded 2 hour ++ ':' :: padded 2 minute ++ ':' :: padded 2 second ++ fraction, s)

/-- The offset of a time, if there is one. -/
def offset? : List Char → Option (List Char × List Char)
  | 'Z' :: rest => some (['Z'], rest)
  | 'z' :: rest => some (['Z'], rest)
  | c :: rest =>
    if c = '+' || c = '-' then do
      let (hour, s) ← bounded? 2 0 23 rest
      let s ← mark? ':' s
      let (minute, s) ← bounded? 2 0 59 s
      let sign := if hour = 0 ∧ minute = 0 then '+' else c
      some (sign :: padded 2 hour ++ ':' :: padded 2 minute, s)
    else some ([], c :: rest)
  | [] => some ([], [])

/-- The time behind a date, if there is one. -/
def timeOfDate? (s : List Char) : Option (List Char × List Char) :=
  match s with
  | [] => none
  | c :: rest =>
    if c = 'T' || c = 't' || c = ' ' then do
      let (time, s) ← time? rest
      let (offset, s) ← offset? s
      some ('T' :: time ++ offset, s)
    else none

/-- A date, a time or both. -/
def moment? (s : List Char) : Option (Toml × List Char) :=
  match date? s with
  | some (date, rest) =>
    match timeOfDate? rest with
    | some (time, rest) => some (.moment (String.ofList (date ++ time)), rest)
    | none => some (.moment (String.ofList date), rest)
  | none => (time? s).map fun (time, rest) => (.moment (String.ofList time), rest)

/-! ## Numbers -/

/-- A run of digits of a class. Underscores may stand between two digits, and are left out. -/
def digitGroup (isDigit : Char → Bool) : List Char → Option (List Char × List Char)
  | [] => none
  | c :: rest =>
    if isDigit c then
      match rest with
      | '_' :: rest => (digitGroup isDigit rest).map fun (ds, left) => (c :: ds, left)
      | d :: rest' =>
        if isDigit d then (digitGroup isDigit (d :: rest')).map fun (ds, left) => (c :: ds, left)
        else some ([c], d :: rest')
      | [] => some ([c], [])
    else none

/-- A decimal integer part: a zero stands alone. -/
def wholeDigits? : List Char → Option (List Char × List Char)
  | '0' :: rest => some (['0'], rest)
  | s => digitGroup Text.isPlainDigit s

/-- A sign, if there is one: whether it is negative. -/
def sign : List Char → Bool × List Char
  | '+' :: rest => (false, rest)
  | '-' :: rest => (true, rest)
  | s => (false, s)

/-- The number that digits of a base write. -/
def valueOfDigits? (base : Nat) (ds : List Char) : Option Nat :=
  ds.foldlM (fun n c => do
    let d ← Json.hexValue? c
    guard (d < base)
    some (base * n + d)) 0

def inRange? (n : Int) (rest : List Char) : Option (Toml × List Char) :=
  if -(powerOfTwo 63 : Int) ≤ n ∧ n < powerOfTwo 63 then some (.integer n, rest) else none

/-- An integer with digits of a base behind its mark. -/
def basedInteger? (base : Nat) (s : List Char) : Option (Toml × List Char) := do
  let (ds, rest) ← digitGroup (fun c => (Json.hexValue? c).any (· < base)) s
  let n ← valueOfDigits? base ds
  inRange? n rest

def integer? : List Char → Option (Toml × List Char)
  | '0' :: 'x' :: rest => basedInteger? 16 rest
  | '0' :: 'o' :: rest => basedInteger? 8 rest
  | '0' :: 'b' :: rest => basedInteger? 2 rest
  | s => do
    let (negative, s) := sign s
    let (ds, rest) ← wholeDigits? s
    let n ← readNat ds
    inRange? (if negative then -(n : Int) else n) rest

/-- The exponent of a number, if there is one. -/
def exponent? : List Char → Option (Option Int × List Char)
  | [] => some (none, [])
  | c :: rest =>
    if c = 'e' || c = 'E' then do
      let (negative, s) := sign rest
      let (ds, rest) ← digitGroup Text.isPlainDigit s
      let n ← readNat ds
      some (some (if negative then -(n : Int) else n), rest)
    else some (none, c :: rest)

/-- The fraction of a number, if there is one. -/
def fraction? : List Char → Option (Option (List Char) × List Char)
  | '.' :: rest => (digitGroup Text.isPlainDigit rest).map fun (ds, left) => (some ds, left)
  | s => some (none, s)

/-- The number nearest to a decimal. Exponents far outside the range are not computed. -/
def nearest (negative : Bool) (ds : List Char) (exponent : Int) : Binary64 :=
  let n := (readNat ds).getD 0
  if n = 0 ∨ exponent + ds.length < -400 then Binary64.ofNat negative 0
  else if 400 < exponent then Binary64.infinity negative
  else Binary64.ofDecimal negative n exponent

/-- A number with a fraction or an exponent; not one above all finite numbers. -/
def decimalFloating? (s : List Char) : Option (Toml × List Char) := do
  let (negative, s) := sign s
  let (whole, s) ← wholeDigits? s
  let (places, s) ← fraction? s
  let (exponent, s) ← exponent? s
  guard (places.isSome ∨ exponent.isSome)
  let places := places.getD []
  let x := nearest negative (whole ++ places) (exponent.getD 0 - places.length)
  guard (x.isFinite ∨ x.negative)
  some (.floating (some x), s)

/-- Infinity, or the value that is not a number. -/
def specialFloating? (s : List Char) : Option (Toml × List Char) :=
  match sign s with
  | (negative, 'i' :: 'n' :: 'f' :: rest) => some (.floating (some (.infinity negative)), rest)
  | (_, 'n' :: 'a' :: 'n' :: rest) => some (.floating none, rest)
  | _ => none

def floating? (s : List Char) : Option (Toml × List Char) :=
  (decimalFloating? s).orElse fun _ => specialFloating? s

/-! ## Scalars -/

def boolean? : List Char → Option (Toml × List Char)
  | 't' :: 'r' :: 'u' :: 'e' :: rest => some (.boolean true, rest)
  | 'f' :: 'a' :: 'l' :: 's' :: 'e' :: rest => some (.boolean false, rest)
  | _ => none

/-- A value that is neither an array nor a table. -/
def scalar? (s : List Char) : Option (Toml × List Char) :=
  match text? s with
  | some (cs, rest) => some (.text (String.ofList cs), rest)
  | none =>
    (((boolean? s).orElse fun _ => moment? s).orElse fun _ => floating? s).orElse fun _ =>
      integer? s

end ReportPlan.Toml
