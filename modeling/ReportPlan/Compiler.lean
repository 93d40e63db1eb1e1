import ReportPlan.Classifier
import ReportPlan.Entities
import ReportPlan.Lexicon.Extension
import ReportPlan.Period
import ReportPlan.Shape
import ReportPlan.Status
import ReportPlan.Threshold
import ReportPlan.Title

/-! # Compiling queries

A query is normalized once; every part of the report is read off the normal form on its own, and
only the name looks at the query as it was typed and at the other parts. Compiling never fails: what
is not recognised is left out.

* `Compiler`: a lexicon and a match mode.
* `Compiler.compile`: the report of a query at an instant.
-/

set_option autoImplicit false

namespace ReportPlan

structure Compiler where
  lexicon : Lexicon
  mode : MatchMode
  deriving DecidableEq, Repr

namespace Compiler

def standard : Compiler :=
  ⟨.builtin, .substring⟩

/-- The compiler with an extension of the built-in lexicon. -/
def configure (extension : Extension) (mode : MatchMode) : Except LexiconError Compiler := do
  return ⟨← Lexicon.extend extension, mode⟩

inductive FilterSource where
  | entities
  | thresholds
  | states
  deriving DecidableEq, Repr

def FilterSource.name : FilterSource → String
  | entities => "extractor:entities"
  | thresholds => "extractor:numeric"
  | states => "extractor:status"

/-- The sources, in the order in which their filters are listed. -/
def FilterSource.all : List FilterSource :=
  [entities, thresholds, states]

/-- The filters that a source finds in a normalized query. -/
def filtersFrom (c : Compiler) (text : List Char) : FilterSource → List Filter
  | .entities => entityFilters c.mode c.lexicon text
  | .thresholds => ReportPlan.thresholds text
  | .states => stateFilters c.mode text

def filters (c : Compiler) (text : List Char) : List Filter :=
  FilterSource.all.flatMap (c.filtersFrom text)

def compile (c : Compiler) (query : String) (now : Instant) : Report :=
  let text := Text.normalize query.toList
  let type := classify c.mode text
  let filters := c.filters text
  let window := windowIn c.mode text now
  { reportType := type
    name := title c.mode query.toList type filters window
    filters := filters
    metrics := metricsIn c.mode c.lexicon type text
    groupBy := groupingIn c.mode text
    sortBy := sortIn c.mode text
    limit := limitIn text
    window := window
    aggregations := aggregationsIn c.mode text }

theorem filters_eq (c : Compiler) (text : List Char) :
    c.filters text =
      entityFilters c.mode c.lexicon text ++ thresholds text ++ stateFilters c.mode text := by
  simp [filters, FilterSource.all, filtersFrom, List.append_assoc]

section Parts

variable (c : Compiler) (query : String) (now : Instant)

@[simp] theorem compile_reportType :
    (c.compile query now).reportType = classify c.mode (Text.normalize query.toList) := rfl

@[simp] theorem compile_name :
    (c.compile query now).name =
      title c.mode query.toList (classify c.mode (Text.normalize query.toList))
        (c.filters (Text.normalize query.toList))
        (windowIn c.mode (Text.normalize query.toList) now) := by
  rw [compile]

@[simp] theorem compile_filters :
    (c.compile query now).filters = c.filters (Text.normalize query.toList) := rfl

@[simp] theorem compile_metrics :
    (c.compile query now).metrics =
      metricsIn c.mode c.lexicon (classify c.mode (Text.normalize query.toList))
        (Text.normalize query.toList) := rfl

@[simp] theorem compile_groupBy :
    (c.compile query now).groupBy = groupingIn c.mode (Text.normalize query.toList) := rfl

@[simp] theorem compile_sortBy :
    (c.compile query now).sortBy = sortIn c.mode (Text.normalize query.toList) := rfl

@[simp] theorem compile_limit :
    (c.compile query now).limit = limitIn (Text.normalize query.toList) := rfl

@[simp] theorem compile_window :
    (c.compile query now).window = windowIn c.mode (Text.normalize query.toList) now := rfl

@[simp] theorem compile_aggregations :
    (c.compile query now).aggregations =
      aggregationsIn c.mode (Text.normalize query.toList) := rfl

end Parts

end Compiler
end ReportPlan
