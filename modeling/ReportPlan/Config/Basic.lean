import ReportPlan.Lexicon.Extension
import ReportPlan.Matching

/-! # Configurations

* `Config`: what an operator may set. Everything has a default.
* `Config.override`: a value from the environment, which counts more than the configuration if it
  names a match mode and counts nothing otherwise.
* `Config.overrideAll`: several such values, one after the other.
-/

set_option autoImplicit false

namespace ReportPlan

structure Config where
  mode : MatchMode := .substring
  /-- Whether JSON is written over several lines. -/
  pretty : Bool := true
  /-- Which log records are kept. -/
  level : String := "warn"
  lexicon : Extension := .empty

namespace Config

instance : Inhabited Config :=
  ⟨{}⟩

/-- Takes the match mode from a value of the environment, if there is one and it names a mode. -/
def override (c : Config) (value : Option String) : Config :=
  match value.bind MatchMode.ofName? with
  | some mode => { c with mode := mode }
  | none => c

/-- Takes several values of the environment, one after the other. -/
def overrideAll (c : Config) (values : List (Option String)) : Config :=
  values.foldl override c

@[simp] theorem override_lexicon (c : Config) (value : Option String) :
    (c.override value).lexicon = c.lexicon := by
  rw [override]
  split <;> rfl

@[simp] theorem overrideAll_cons (c : Config) (value : Option String)
    (values : List (Option String)) :
    c.overrideAll (value :: values) = (c.override value).overrideAll values := rfl

end Config
end ReportPlan
