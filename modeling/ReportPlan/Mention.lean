import ReportPlan.Matching

/-! # Mentions of dictionary entries

An entry of a table is mentioned in a text if its surface occurs there and is not merely a part of
a longer surface of the same table: in `fx spot` the surface `fx` is covered, in `fx` it is not.

* `Sighting`: an entry and the spans at which its surface occurs.
* `covered`: whether a span lies within an occurrence of a longer surface.
* `mentioned`: the entries with an occurrence that is not covered, in table order.
-/

set_option autoImplicit false

namespace ReportPlan

/-- An entry with its surface and the spans at which that occurs. -/
structure Sighting (α : Type) where
  entry : α
  surface : List Char
  spans : List Span

/-- The spans of every entry of a table. An empty surface occurs nowhere. -/
def sightings {α : Type} (mode : MatchMode) (text : List Char) (surface : α → String)
    (table : List α) : List (Sighting α) :=
  table.map fun e =>
    let s := (surface e).toList
    ⟨e, s, if s.isEmpty then [] else mode.occurrences text s⟩

/-- Whether a span of a surface lies within an occurrence of a longer surface. -/
def covered {α : Type} (all : List (Sighting α)) (surface : List Char) (span : Span) : Bool :=
  all.any fun other =>
    byteLength surface < byteLength other.surface && other.spans.any fun o => span.within o

/-- Whether some occurrence of an entry is not covered. -/
def Sighting.isMention {α : Type} (all : List (Sighting α)) (s : Sighting α) : Bool :=
  s.spans.any fun span => !covered all s.surface span

/-- The entries of a table that a text mentions, in table order. -/
def mentioned {α : Type} (mode : MatchMode) (text : List Char) (surface : α → String)
    (table : List α) : List α :=
  let all := sightings mode text surface table
  (all.filter (·.isMention all)).map (·.entry)

theorem mem_of_mem_mentioned {α : Type} {mode : MatchMode} {text : List Char}
    {surface : α → String} {table : List α} {e : α}
    (h : e ∈ mentioned mode text surface table) : e ∈ table := by
  simp only [mentioned, sightings, List.mem_map, List.mem_filter] at h
  obtain ⟨s, ⟨⟨e', he', rfl⟩, -⟩, rfl⟩ := h
  exact he'

end ReportPlan
