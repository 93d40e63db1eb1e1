import ReportPlan.Config.Basic
import ReportPlan.Naming
import ReportPlan.Toml.Document

/-! # Configurations in TOML

A configuration is a table of four sections, `matching`, `output`, `logging` and `lexicon`. Sections
and fields may be missing; unknown keys are ignored; a value of a wrong kind makes the whole
configuration unreadable.

* `Toml.fields?`: the fields of a section. A section may also be written as the array of its
  fields in order.
* `Config.ofToml?`: the configuration of a table.
* `Config.ofText?`: the configuration that a text writes.
-/

set_option autoImplicit false

namespace ReportPlan

/-! ## Shapes -/

namespace Toml

/-- The key under which a date or a time keeps its text where a table is expected. -/
def momentKey : String :=
  "$__toml_private_datetime"

/-- The entries of a table. A date or a time counts as a table with its text as the only entry. -/
def entries? : Toml → Option (List (String × Toml))
  | .table entries => some entries
  | .moment s => some [(momentKey, .text s)]
  | _ => none

/-- The values of the named fields of a section, each where it is there. -/
def fields? (keys : List String) : Toml → Option (List (Option Toml))
  | .array items => some ((List.range keys.length).map fun i => items[i]?)
  | t => t.entries?.map fun entries => keys.map (lookup? · entries)

def asText? : Toml → Option String
  | .text s => some s
  | _ => none

def asBool? : Toml → Option Bool
  | .boolean b => some b
  | _ => none

def asTexts? : Toml → Option (List String)
  | .array items => items.mapM asText?
  | _ => none

/-- A dictionary from a table whose values are all read by a reader. -/
def asDictionary? {α : Type} (value? : Toml → Option α) (t : Toml) : Option (Dictionary α) := do
  let entries ← t.entries?
  let entries ← entries.mapM fun e => (value? e.2).map fun v => (e.1, v)
  some (Dictionary.ofEntries entries)

/-- A field that has a default where it is missing. -/
def orDefault? {α : Type} (read? : Toml → Option α) (missing : α) : Option Toml → Option α
  | none => some missing
  | some t => read? t

/-- Whether a value is an empty table or an empty array. -/
def isVoid : Toml → Bool
  | .table entries => entries.isEmpty
  | .array items => items.isEmpty
  | _ => false

end Toml

/-! ## Sections -/

def MatchMode.naming : Naming MatchMode where
  values := [substring, wordBoundary]
  name := name
  complete := by
    intro mode
    cases mode <;> decide
  distinct := by decide

def MatchMode.ofIdentifier? : String → Option MatchMode :=
  naming.ofName?

/-- A mode: its identifier, or a table with the identifier as its only key and nothing under it. -/
def MatchMode.ofToml? : Toml → Option MatchMode
  | .text s => ofIdentifier? s
  | .table [(s, t)] => if t.isVoid then ofIdentifier? s else none
  | _ => none

namespace Config

/-- The section `matching`. -/
def modeOfToml? (t : Toml) : Option MatchMode :=
  match t.fields? ["mode"] with
  | some [mode] => Toml.orDefault? MatchMode.ofToml? .substring mode
  | _ => none

/-- The section `output`. -/
def prettyOfToml? (t : Toml) : Option Bool :=
  match t.fields? ["pretty"] with
  | some [pretty] => Toml.orDefault? Toml.asBool? true pretty
  | _ => none

/-- The section `logging`. -/
def levelOfToml? (t : Toml) : Option String :=
  match t.fields? ["level"] with
  | some [level] => Toml.orDefault? Toml.asText? "warn" level
  | _ => none

end Config

/-- The section `lexicon`. -/
def Extension.ofToml? (t : Toml) : Option Extension :=
  match t.fields? ["counterparties", "products", "traders", "desks", "metrics"] with
  | some [counterparties, products, traders, desks, metrics] => do
    some {
      counterparties := ← Toml.orDefault? Toml.asTexts? [] counterparties
      products := ← Toml.orDefault? (Toml.asDictionary? Toml.asTexts?) .empty products
      traders := ← Toml.orDefault? (Toml.asDictionary? Toml.asText?) .empty traders
      desks := ← Toml.orDefault? (Toml.asDictionary? Toml.asText?) .empty desks
      metrics := ← Toml.orDefault? (Toml.asDictionary? Toml.asTexts?) .empty metrics }
  | _ => none

/-! ## The whole -/

namespace Config

def ofToml? (entries : List (String × Toml)) : Option Config := do
  some {
    mode := ← Toml.orDefault? modeOfToml? .substring (Toml.lookup? "matching" entries)
    pretty := ← Toml.orDefault? prettyOfToml? true (Toml.lookup? "output" entries)
    level := ← Toml.orDefault? levelOfToml? "warn" (Toml.lookup? "logging" entries)
    lexicon := ← Toml.orDefault? Extension.ofToml? .empty (Toml.lookup? "lexicon" entries) }

def ofText? (s : String) : Option Config :=
  (Toml.ofDocument? s.toList).bind ofToml?

end Config
end ReportPlan
