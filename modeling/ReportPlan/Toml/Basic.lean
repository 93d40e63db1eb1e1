import ReportPlan.Number.Binary64

/-! # TOML values

* `Toml`: a value of a TOML document, version 1.0. The document itself is a table.
* `Toml.get?`: the value under a key of a table.
-/

set_option autoImplicit false

namespace ReportPlan

inductive Toml where
  | text (s : String)
  | integer (n : Int)
  /-- A floating-point number; none is the value that is not a number. -/
  | floating (x : Option Binary64)
  | boolean (b : Bool)
  /-- A date, a time or both, in normal form. -/
  | moment (s : String)
  | array (items : List Toml)
  | table (entries : List (String × Toml))

namespace Toml

instance : Inhabited Toml :=
  ⟨table []⟩

/-- The value under a key of a list of entries. -/
def lookup? (key : String) (entries : List (String × Toml)) : Option Toml :=
  (entries.find? fun e => e.1 == key).map (·.2)

end Toml
end ReportPlan
