import ReportPlan.Lexicon.Extension
import ReportPlan.Report.Encoding

/-! # Lexicons and their extensions in JSON

* `Lexicon.toJson`: the tables of a lexicon, each a list in table order.
* `Extension.ofJson?`: an extension, whose tables may all be missing. Unknown keys are ignored; a
  list holds the tables in the order counterparties, products, traders, desks, metrics, and may
  stop early.
-/

set_option autoImplicit false

namespace ReportPlan

/-! ## Writing -/

def aliasJson (e : Entry String) : Json :=
  .object [("surface", .text e.surface), ("canonical", .text e.value)]

def expansionJson (e : Entry (List String)) : Json :=
  .object [("surface", .text e.surface), ("values", Json.ofTexts e.value)]

def Lexicon.toJson (l : Lexicon) : Json :=
  .object
    [("counterparties", Json.ofTexts l.counterparties),
     ("products", .list (l.products.map expansionJson)),
     ("traders", .list (l.traders.map aliasJson)),
     ("desks", .list (l.desks.map aliasJson)),
     ("metrics", .list (l.metrics.map expansionJson))]

/-! ## Reading -/

/-- A dictionary from an object whose values are all read by a reader. -/
def Dictionary.ofJson? {α : Type} (value? : Json → Option α) : Json → Option (Dictionary α)
  | .object entries =>
    (entries.mapM fun e => (value? e.2).map fun v => (e.1, v)).map Dictionary.ofEntries
  | _ => none

/-- A part that has a default where it is missing. -/
def Json.orDefault? {α : Type} [Inhabited α] (read? : Json → Option α) :
    Option Json → Option α
  | none => some default
  | some j => read? j

/-- An extension from its parts, where they are there. -/
def Extension.ofParts? (counterparties products traders desks metrics : Option Json) :
    Option Extension := do
  some {
    counterparties := ← Json.orDefault? (Json.asList? Json.asText?) counterparties
    products := ← Json.orDefault? (Dictionary.ofJson? (Json.asList? Json.asText?)) products
    traders := ← Json.orDefault? (Dictionary.ofJson? Json.asText?) traders
    desks := ← Json.orDefault? (Dictionary.ofJson? Json.asText?) desks
    metrics := ← Json.orDefault? (Dictionary.ofJson? (Json.asList? Json.asText?)) metrics }

def Extension.ofJson? : Json → Option Extension
  | .object entries =>
    let get := (Json.object entries).get?
    ofParts? (get "counterparties") (get "products") (get "traders") (get "desks") (get "metrics")
  | .list items =>
    if items.length ≤ 5 then ofParts? items[0]? items[1]? items[2]? items[3]? items[4]? else none
  | _ => none

end ReportPlan
