import ReportPlan.Json.Reader

/-! # Universally unique identifiers

* `Uuid`: a number of 128 bits.
* `Uuid.text`: 32 hexadecimal digits in lower case, hyphenated in groups of 8, 4, 4, 4 and 12.
* `Uuid.read?`: reads that form in any letter case, also in braces, behind `urn:uuid:`, or without
  hyphens.
* `Uuid.random`: an identifier of version 4 made of random bits.
-/

set_option autoImplicit false

namespace ReportPlan

structure Uuid where
  value : Nat
  value_lt : value < 0x100000000000000000000000000000000
  deriving DecidableEq, Repr

namespace Uuid

/-- The hexadecimal digits of a number, the given number of them, from the last on. -/
def hexDigits : Nat → Nat → List Char
  | 0, _ => []
  | width + 1, n => hexDigits width (n / 16) ++ [Json.hexDigit (n % 16)]

/-- Cuts a text into groups of given lengths. -/
def groups : List Nat → List Char → List (List Char)
  | [], _ => []
  | n :: lengths, s => s.take n :: groups lengths (s.drop n)

/-- The lengths of the groups between hyphens. -/
def groupLengths : List Nat :=
  [8, 4, 4, 4, 12]

def text (u : Uuid) : List Char :=
  List.intercalate ['-'] (groups groupLengths (hexDigits 32 u.value))

/-- The number that hexadecimal digits give after a first part of value `n`. -/
def hexAfter : Nat → List Char → Option Nat
  | n, [] => some n
  | n, c :: rest => (Json.hexValue? c).bind fun d => hexAfter (16 * n + d) rest

def ofHex? (s : List Char) : Option Uuid := do
  guard (s.length = 32)
  let n ← hexAfter 0 s
  if h : n < 0x100000000000000000000000000000000 then some ⟨n, h⟩ else none

def ofHyphenated? (s : List Char) : Option Uuid := do
  let parts := groups [8, 1, 4, 1, 4, 1, 4, 1, 12] s
  match parts with
  | [a, h₁, b, h₂, c, h₃, d, h₄, e] => do
    guard (s.length = 36 ∧ [h₁, h₂, h₃, h₄] = List.replicate 4 ['-'])
    ofHex? (a ++ b ++ c ++ d ++ e)
  | _ => none

/-- What the form as a resource name begins with, in any letter case. -/
def resourceMark : List Char :=
  ['u', 'r', 'n', ':', 'u', 'u', 'i', 'd', ':']

/-- The identifier in one of its forms, which their lengths tell apart. -/
def read? (s : List Char) : Option Uuid :=
  if s.length = 32 then ofHex? s
  else if s.length = 36 then ofHyphenated? s
  else if s.length = 38 ∧ s.take 1 = ['\x7b'] ∧ s.drop 37 = ['\x7d'] then
    ofHyphenated? ((s.drop 1).take 36)
  else if s.length = 45 ∧ (s.take 9).map Char.toLower = resourceMark then ofHyphenated? (s.drop 9)
  else none

/-- Random bits with the marks of version 4 in their places. -/
def random (bits : Nat) : Uuid :=
  let high := bits / 0x100000000000000000000 % 0x1000000000000
  let middle := bits / 0x10000000000000000 % 0x1000
  let low := bits % 0x4000000000000000
  ⟨high * 0x100000000000000000000 + middle * 0x10000000000000000 + low +
    0x40008000000000000000, by omega⟩

end Uuid
end ReportPlan
