import ReportPlan.Lexicon.Basic
import ReportPlan.Mention

/-! # Filters on entities

Counterparties, products, traders and desks that a query mentions become filters: equality for one
value, membership for several.

* `counterpartiesIn`, `productsIn`, `tradersIn`, `desksIn`: the values of the entries that a query
  mentions, each once, in table order.
* `entityFilters`: the filters of the four classes, in that order.
-/

set_option autoImplicit false

namespace ReportPlan

def counterpartyField : String :=
  "counterparty"

def productField : String :=
  "product_type"

def traderField : String :=
  "trader"

def deskField : String :=
  "desk"

/-- The counterparties that a text mentions, in title case. -/
def counterpartiesIn (mode : MatchMode) (lexicon : Lexicon) (text : List Char) : List String :=
  ((mentioned mode text id lexicon.counterparties).map (·.titleCase)).eraseDups

def productsIn (mode : MatchMode) (lexicon : Lexicon) (text : List Char) : List String :=
  ((mentioned mode text Entry.surface lexicon.products).flatMap (·.value)).eraseDups

/-- The canonical names of the entries of a table that a text mentions. -/
def namesIn (mode : MatchMode) (table : List (Entry String)) (text : List Char) : List String :=
  ((mentioned mode text Entry.surface table).map (·.value)).eraseDups

def tradersIn (mode : MatchMode) (lexicon : Lexicon) (text : List Char) : List String :=
  namesIn mode lexicon.traders text

def desksIn (mode : MatchMode) (lexicon : Lexicon) (text : List Char) : List String :=
  namesIn mode lexicon.desks text

def entityFilters (mode : MatchMode) (lexicon : Lexicon) (text : List Char) : List Filter :=
  [Filter.anyOf? counterpartyField (counterpartiesIn mode lexicon text),
   Filter.anyOf? productField (productsIn mode lexicon text),
   Filter.anyOf? traderField (tradersIn mode lexicon text),
   Filter.anyOf? deskField (desksIn mode lexicon text)].filterMap id

end ReportPlan
