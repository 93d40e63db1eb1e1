/-! # Names of enumerations

* `Naming`: the values of an enumeration and their names, which tell them apart.
* `Naming.ofName?`: the value that has a name; `Naming.ofName?_name` finds every value by its own.
-/

set_option autoImplicit false

namespace ReportPlan

structure Naming (α : Type) where
  values : List α
  name : α → String
  complete : ∀ a, a ∈ values
  distinct : (values.map name).Nodup

namespace Naming

variable {α : Type}

def ofName? (names : Naming α) (s : String) : Option α :=
  names.values.find? fun a => names.name a == s

theorem find?_name {name : α → String} {values : List α} {a : α} (ha : a ∈ values)
    (hdistinct : (values.map name).Nodup) :
    values.find? (fun b => name b == name a) = some a := by
  induction values with
  | nil => cases ha
  | cons b rest ih =>
    obtain ⟨hnew, hrest⟩ := List.nodup_cons.1 hdistinct
    rcases List.mem_cons.1 ha with rfl | hmem
    · exact List.find?_cons_of_pos (beq_self_eq_true _)
    · have hne : name b ≠ name a := fun heq => hnew (heq ▸ List.mem_map_of_mem hmem)
      rw [List.find?_cons_of_neg (by simpa using hne)]
      exact ih hmem hrest

theorem ofName?_name (names : Naming α) (a : α) : names.ofName? (names.name a) = some a :=
  find?_name (names.complete a) names.distinct

end Naming
end ReportPlan
