import ReportPlan.Calendar.Instant
import ReportPlan.Number.Digits
import ReportPlan.Number.Power
import ReportPlan.Text.Blank

/-! # Timestamps

* `Instant.text`: `2026-10-19T09:15:00.250Z`. The fraction has 0, 3, 6 or 9 digits, the fewest that
  hold it; years outside 0 to 9999 are signed; a leap second shows as `:60`.
* `Date.text`: the part before the `T`.
* `readStrict?`: an RFC 3339 timestamp: every part has its full width.
* `readLenient?`: the same with narrower parts, signed years, and blanks around the parts; this is
  how timestamps of stored reports are read.
-/

set_option autoImplicit false

namespace ReportPlan

/-! ## Writing -/

/-- A year: four digits, with a sign where they do not suffice. -/
def yearText (year : Int) : List Char :=
  if 0 ≤ year ∧ year ≤ 9999 then padded 4 year.natAbs
  else (if year < 0 then '-' else '+') :: padded 4 year.natAbs

/-- A date as year, month and day. -/
def Date.text (d : Date) : List Char :=
  yearText d.year ++ '-' :: padded 2 d.month ++ '-' :: padded 2 d.day

/-- The fraction of a second: nothing, or a point and 3, 6 or 9 digits. -/
def fractionText (nano : Nat) : List Char :=
  if nano = 0 then []
  else if nano % 1000000 = 0 then '.' :: padded 3 (nano / 1000000)
  else if nano % 1000 = 0 then '.' :: padded 6 (nano / 1000)
  else '.' :: padded 9 nano

def Instant.text (i : Instant) : List Char :=
  i.date.text ++ 'T' :: padded 2 (i.second / 3600) ++ ':' :: padded 2 (i.second / 60 % 60) ++
    ':' :: padded 2 (i.second % 60 + i.nano / secondNanos) ++
    fractionText (i.nano % secondNanos) ++ ['Z']

/-! ## Reading parts

Each reader takes a part off the front of a text and returns the part's value and the rest. -/

namespace Timestamp

/-- The longest run of at most `most` plain digits. -/
def digitRun : Nat → List Char → List Char × List Char
  | 0, s => ([], s)
  | _, [] => ([], [])
  | most + 1, c :: rest =>
    if Text.isPlainDigit c then
      let (run, rest) := digitRun most rest
      (c :: run, rest)
    else ([], c :: rest)

/-- A number of exactly `width` digits. -/
def fixed? (width : Nat) (s : List Char) : Option (Nat × List Char) :=
  let (run, rest) := digitRun width s
  if run.length = width then (readNat run).map (·, rest) else none

/-- A number of one to `most` digits. -/
def upTo? (most : Nat) (s : List Char) : Option (Nat × List Char) :=
  let (run, rest) := digitRun most s
  (readNat run).map (·, rest)

def expect? (c : Char) : List Char → Option (List Char)
  | [] => none
  | d :: rest => if d = c then some rest else none

def separator? : List Char → Option (List Char)
  | [] => none
  | c :: rest => if c = 'T' || c = 't' || c = ' ' then some rest else none

/-- The nanoseconds of a fraction; digits after the ninth do not count. No fraction is zero. -/
def fraction? : List Char → Option (Nat × List Char)
  | '.' :: s => do
    let (run, rest) := digitRun 9 s
    let n ← readNat run
    some (n * powerOfTen (9 - run.length), rest.dropWhile Text.isPlainDigit)
  | s => some (0, s)

/-- The sign of an offset: whether it is negative. The minus sign U+2212 counts. -/
def offsetSign? : List Char → Option (Bool × List Char)
  | '+' :: rest => some (false, rest)
  | '-' :: rest => some (true, rest)
  | '\u2212' :: rest => some (true, rest)
  | _ => none

/-- The seconds by which a clock is ahead, from hours and minutes; an offset of a day or more is
none. -/
def offsetSeconds? (negative : Bool) (hours minutes : Nat) : Option Int :=
  let seconds := hours * 3600 + minutes * 60
  if minutes ≤ 59 ∧ seconds < daySeconds then
    some (if negative then -(seconds : Int) else seconds)
  else none

/-- Joins the parts of a timestamp. Second 60 is the leap second after second 59. -/
def assemble? (year : Int) (month day hour minute second nano : Nat) (offset : Int) :
    Option Instant := do
  let date ← Date.of? year month day
  guard (hour ≤ 23 ∧ minute ≤ 59 ∧ second ≤ 60)
  let (second, nano) := if second = 60 then (59, nano + secondNanos) else (second, nano)
  Instant.ofLocal? date (hour * 3600 + minute * 60 + second) nano offset

/-! ## Strict timestamps -/

/-- `Z`, or a sign, two digits of hours, a colon and two digits of minutes. -/
def strictOffset? : List Char → Option (Int × List Char)
  | 'Z' :: rest => some (0, rest)
  | 'z' :: rest => some (0, rest)
  | s => do
    let (negative, s) ← offsetSign? s
    let (hours, s) ← fixed? 2 s
    let s ← expect? ':' s
    let (minutes, s) ← fixed? 2 s
    let offset ← offsetSeconds? negative hours minutes
    some (offset, s)

def readStrict? (s : List Char) : Option Instant := do
  let (year, s) ← fixed? 4 s
  let s ← expect? '-' s
  let (month, s) ← fixed? 2 s
  let s ← expect? '-' s
  let (day, s) ← fixed? 2 s
  let s ← separator? s
  let (hour, s) ← fixed? 2 s
  let s ← expect? ':' s
  let (minute, s) ← fixed? 2 s
  let s ← expect? ':' s
  let (second, s) ← fixed? 2 s
  let (nano, s) ← fraction? s
  let (offset, s) ← strictOffset? s
  guard s.isEmpty
  assemble? year month day hour minute second nano offset

/-! ## Lenient timestamps -/

/-- A text without the blanks at its front. -/
def skipBlanks (s : List Char) : List Char :=
  s.dropWhile Text.isBlank

/-- A year: a sign and any number of digits, or up to four digits. -/
def lenientYear? (s : List Char) : Option (Int × List Char) :=
  match skipBlanks s with
  | '-' :: s => (upTo? s.length s).map fun (n, rest) => (-(n : Int), rest)
  | '+' :: s => (upTo? s.length s).map fun (n, rest) => ((n : Int), rest)
  | s => (upTo? 4 s).map fun (n, rest) => ((n : Int), rest)

/-- One or two digits, after blanks. -/
def lenientPart? (s : List Char) : Option (Nat × List Char) :=
  upTo? 2 (skipBlanks s)

/-- A mark between parts, after blanks. -/
def lenientMark? (c : Char) (s : List Char) : Option (List Char) :=
  expect? c (skipBlanks s)

/-- `Z`, or a sign, two digits of hours, any colons and blanks, and two digits of minutes. -/
def lenientClock? : List Char → Option (Int × List Char)
  | 'Z' :: rest => some (0, rest)
  | 'z' :: rest => some (0, rest)
  | s => do
    let (negative, s) ← offsetSign? s
    let (hours, s) ← fixed? 2 s
    let s := s.dropWhile fun c => c = ':' || Text.isBlank c
    let (minutes, s) ← fixed? 2 s
    let offset ← offsetSeconds? negative hours minutes
    some (offset, s)

/-- The word `UTC` in any letter case, or a clock's offset. -/
def lenientOffset? (s : List Char) : Option (Int × List Char) :=
  if (s.take 3).map Char.toUpper = ['U', 'T', 'C'] then some (0, s.drop 3) else lenientClock? s

def readLenient? (s : List Char) : Option Instant := do
  let (year, s) ← lenientYear? s
  let s ← lenientMark? '-' s
  let (month, s) ← lenientPart? s
  let s ← lenientMark? '-' s
  let (day, s) ← lenientPart? s
  let s ← separator? s
  let (hour, s) ← lenientPart? s
  let s ← lenientMark? ':' s
  let (minute, s) ← lenientPart? s
  let s ← lenientMark? ':' s
  let (second, s) ← lenientPart? s
  let (nano, s) ← fraction? s
  let (offset, s) ← lenientOffset? (skipBlanks s)
  guard (skipBlanks s).isEmpty
  assemble? year month day hour minute second nano offset

end Timestamp
end ReportPlan
