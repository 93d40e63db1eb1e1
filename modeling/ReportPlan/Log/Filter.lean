import ReportPlan.Log.Record
import ReportPlan.Number.Digits
import ReportPlan.Text.Blank
import ReportPlan.Text.Digit

/-! # Log filters

A log filter is a list of directives, divided by commas. A directive is a limit, or a target with a
limit behind an equals sign; a target alone stands for all its records. Before the equals sign a
field may stand in brackets and braces, as in `store[{size}]=debug`: then the directive concerns
only records with that field. What is no directive is passed over.

Blanks are part of targets, field names and limits; only behind the brackets of a field that ends a
directive they say nothing.

Of the directives that concern a record the most specific one decides.

* `Directive`: a limit for some records. `directive?` reads one.
* `LogFilter`: directives. `LogFilter.ofText` reads them.
* `LogFilter.admits`: whether a record is kept.
-/

set_option autoImplicit false

namespace ReportPlan

/-! ## Directives -/

structure Directive where
  target : Option String
  field : Option String
  limit : Severity
  deriving DecidableEq, Repr

namespace Directive

/-- Whether a directive concerns a record: the target of the record begins with that of the
directive, and the record has its field. -/
def concerns (d : Directive) (r : LogRecord) : Bool :=
  d.target.all (fun t => t.toList.isPrefixOf r.target.toList) && d.field.all r.hasField

/-- How specific the target of a directive is: none is less specific than any, and longer ones are
more specific. -/
def reach (d : Directive) : Nat :=
  match d.target with
  | none => 0
  | some t => t.utf8ByteSize + 1

/-- Whether a directive is more specific than another one that concerns the same record: by its
target first, by having a field second. Fields are told apart by their names. -/
def outweighs (d e : Directive) : Bool :=
  e.reach < d.reach ||
    (e.reach == d.reach &&
      match d.field, e.field with
      | some a, some b => b < a
      | some _, none => true
      | none, _ => false)

end Directive

/-! ## Reading -/

/-- The severity with a name in any letter case, or with a number. -/
def Severity.read? (s : List Char) : Option Severity :=
  let plain := match s with
    | '+' :: rest => rest
    | s => s
  match readNat plain with
  | some n => all.find? (·.rank == n)
  | none => all.find? fun v => v.name.toList == s.map Char.toLower

/-- A limit behind an equals sign; nothing stands for all records. -/
def limit? : List Char → Option Severity
  | [] => some .trace
  | s => Severity.read? s

/-- What follows the target: nothing, or an equals sign and a limit. -/
def limitAfter? : List Char → Option Severity
  | [] => some .trace
  | '=' :: rest => limit? rest
  | _ => none

/-- What follows the brackets of a field: blanks, or an equals sign and a limit. -/
def limitBehindField? (s : List Char) : Option Severity :=
  if s.all Text.isBlank then some .trace else limitAfter? s

/-- The name of a field, which stands alone between the braces. -/
def fieldName? (s : List Char) : Option String :=
  if s.isEmpty || s.contains '=' then none else some (String.ofList s)

/-- A directive behind its target: a field if there is one, and a limit. Directives for a span of
records, or for a value of a field, concern no record and are passed over. -/
def behindTarget? (target : Option String) : List Char → Option Directive
  | '[' :: '\x7b' :: rest => do
    let name ← fieldName? (rest.takeWhile (· ≠ '\x7d'))
    match rest.dropWhile (· ≠ '\x7d') with
    | '\x7d' :: ']' :: rest => some ⟨target, some name, ← limitBehindField? rest⟩
    | _ => none
  | '[' :: _ => none
  | rest => (limitAfter? rest).map (⟨target, none, ·⟩)

/-- Whether a character may begin a limit or a target. -/
def beginsDirective (c : Char) : Bool :=
  c == '-' || c == ':' || c == '_' || Text.isAlphanumeric c

def endsTarget (c : Char) : Bool :=
  c == '=' || c == '['

def directive? (s : List Char) : Option Directive :=
  match s with
  | [] => none
  | '[' :: _ => behindTarget? none s
  | c :: _ =>
    if beginsDirective c then
      match Severity.read? s with
      | some limit => some ⟨none, none, limit⟩
      | none =>
        behindTarget? (some (String.ofList (s.takeWhile (!endsTarget ·))))
          (s.dropWhile (!endsTarget ·))
    else none

/-! ## Filters -/

structure LogFilter where
  directives : List Directive
  deriving DecidableEq, Repr

namespace LogFilter

def pieces : List Char → List (List Char)
  | [] => [[]]
  | c :: rest =>
    if c = ',' then [] :: pieces rest
    else
      match pieces rest with
      | [] => [[c]]
      | p :: ps => (c :: p) :: ps

def ofText (s : String) : LogFilter :=
  ⟨(pieces s.toList).filterMap directive?⟩

/-- The more specific one of two directives; of two for the same records, the later one. -/
def moreSpecific (earlier : Option Directive) (later : Directive) : Option Directive :=
  match earlier with
  | none => some later
  | some d => if d.outweighs later then some d else some later

/-- The directive that decides on a record. -/
def deciding? (f : LogFilter) (r : LogRecord) : Option Directive :=
  (f.directives.filter (·.concerns r)).foldl moreSpecific none

def admits (f : LogFilter) (r : LogRecord) : Bool :=
  match f.deciding? r with
  | some d => r.severity.rank ≤ d.limit.rank
  | none => false

end LogFilter

end ReportPlan
