import ReportPlan.Lexicon.Basic
import ReportPlan.Lexicon.Dictionary

/-! # Extensions of the built-in lexicon

An operator may add entries to every table. The surfaces of the extension are normalized; a surface
that a table holds already gets the new value in its place, and other surfaces are appended.

* `Extension`: the entries to be added, as configured.
* `LexiconError`: why an extension is refused; `LexiconError.message` is the text shown.
* `Lexicon.extend`: the built-in lexicon with an extension. Tables are checked in the order
  counterparties, products, metrics, traders, desks; of an entry, the surface before the value.
-/

set_option autoImplicit false

namespace ReportPlan

/-! ## Extensions and their errors -/

/-- Entries to be added to the built-in tables, as configured. -/
structure Extension where
  counterparties : List String
  products : Dictionary (List String)
  traders : Dictionary String
  desks : Dictionary String
  metrics : Dictionary (List String)

namespace Extension

def empty : Extension :=
  ⟨[], .empty, .empty, .empty, .empty⟩

instance : Inhabited Extension :=
  ⟨empty⟩

def isEmpty (x : Extension) : Bool :=
  x.counterparties.isEmpty && x.products.isEmpty && x.traders.isEmpty && x.desks.isEmpty &&
    x.metrics.isEmpty

end Extension

inductive Table where
  | counterparties
  | products
  | metrics
  | traders
  | desks
  deriving DecidableEq, Repr

def Table.name : Table → String
  | counterparties => "counterparties"
  | products => "products"
  | metrics => "metrics"
  | traders => "traders"
  | desks => "desks"

inductive LexiconError where
  /-- A surface is blank. -/
  | emptySurface (table : Table)
  /-- The value of a surface is blank, has a blank part, or has no parts. -/
  | emptyCanonical (table : Table) (surface : String)
  deriving DecidableEq, Repr

def LexiconError.message : LexiconError → String
  | emptySurface table => "empty surface string in lexicon table '" ++ table.name ++ "'"
  | emptyCanonical table surface =>
    "empty canonical value for '" ++ surface ++ "' in lexicon table '" ++ table.name ++ "'"

/-! ## Checks -/

/-- The normal form of a configured surface, which may not be blank. -/
def checkSurface (table : Table) (raw : String) : Except LexiconError String :=
  if raw.isBlankText then .error (.emptySurface table) else .ok raw.normalize

/-- Configured values without the blanks at their ends: at least one, and none of them blank. -/
def checkValues (table : Table) (surface : String) (values : List String) :
    Except LexiconError (List String) :=
  if values.isEmpty || values.any (·.isBlankText) then .error (.emptyCanonical table surface)
  else .ok (values.map (·.trimBlanks))

/-- A configured canonical name without the blanks at its ends, which may not be blank. -/
def checkCanonical (table : Table) (surface : String) (canonical : String) :
    Except LexiconError String :=
  if canonical.isBlankText then .error (.emptyCanonical table surface)
  else .ok canonical.trimBlanks

/-! ## Merging -/

/-- Sets the value of a surface: in its place if the table has it, at the end otherwise. -/
def putEntry {α : Type} (surface : String) (value : α) : List (Entry α) → List (Entry α)
  | [] => [⟨surface, value⟩]
  | e :: rest =>
    if e.surface = surface then ⟨surface, value⟩ :: rest else e :: putEntry surface value rest

/-- Appends a surface to a table that does not have it. -/
def putSurface (surface : String) (table : List String) : List String :=
  if surface ∈ table then table else table ++ [surface]

def extendSurfaces (base raws : List String) : Except LexiconError (List String) :=
  raws.foldlM (fun table raw => do return putSurface (← checkSurface .counterparties raw) table)
    base

/-- Adds configured entries to a table, whose values a check admits. -/
def extendEntries {α : Type} (table : Table)
    (check : Table → String → α → Except LexiconError α) (base : List (Entry α))
    (entries : Dictionary α) : Except LexiconError (List (Entry α)) :=
  entries.entries.foldlM
    (fun acc e => do
      let surface ← checkSurface table e.1
      return putEntry surface (← check table surface e.2) acc)
    base

def Lexicon.extend (x : Extension) : Except LexiconError Lexicon := do
  let counterparties ← extendSurfaces builtin.counterparties x.counterparties
  let products ← extendEntries .products checkValues builtin.products x.products
  let metrics ← extendEntries .metrics checkValues builtin.metrics x.metrics
  let traders ← extendEntries .traders checkCanonical builtin.traders x.traders
  let desks ← extendEntries .desks checkCanonical builtin.desks x.desks
  return { counterparties, products, traders, desks, metrics }

/-! ## Laws of merging -/

/-- The empty extension leaves the built-in lexicon as it is. -/
theorem Lexicon.extend_empty : extend Extension.empty = .ok builtin := rfl

end ReportPlan
