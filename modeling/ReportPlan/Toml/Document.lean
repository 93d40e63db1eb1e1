import ReportPlan.Toml.Scalar

/-! # TOML documents

A document is a list of statements: headers, which open a table or an element of an array of tables,
and pairs of a key and a value. Statements build up a tree, in which a table remembers how it came
to be, since that decides what may still be added to it.

* `Origin`, `Item`: the tree under construction.
* `atPath?`: changes the table at the end of a path, making the tables on the way.
* `openTable?`, `openElement?`, `addPair?`: what the statements do.
* `value?`: a value, with arrays and inline tables nested less than 80 deep.
* `Toml.ofDocument?`: the table that a text writes.
-/

set_option autoImplicit false

namespace ReportPlan.Toml

/-! ## Trees under construction -/

inductive Origin where
  /-- By a header of its own. -/
  | header
  /-- On the way to a table with a header. -/
  | implied
  /-- By a key with several parts. -/
  | dotted
  deriving DecidableEq

/-- What a key of a table under construction stands for. -/
inductive Item where
  | value (v : Toml)
  | table (origin : Origin) (entries : List (String × Item))
  /-- An array of tables, each opened by a header; the last one first. -/
  | elements (tables : List (List (String × Item)))

/-- The entries of a table under construction. -/
abbrev Entries := List (String × Item)

def itemAt? (key : String) (entries : Entries) : Option Item :=
  (entries.find? fun e => e.1 == key).map (·.2)

/-- Sets the item under a key: in its place if the key is there, at the end otherwise. -/
def setItem (key : String) (item : Item) : Entries → Entries
  | [] => [(key, item)]
  | (k, i) :: rest => if k = key then (key, item) :: rest else (k, i) :: setItem key item rest

/-- Changes the table at the end of a path. Tables on the way that are missing are made, with the
given origin; of an array of tables, the last element counts. A path of dotted keys does not lead
through tables with a header. -/
def atPath? (origin : Origin) (change : Origin → Entries → Option Entries) (here : Origin) :
    List String → Entries → Option Entries
  | [], entries => change here entries
  | key :: path, entries =>
    match itemAt? key entries with
    | none => (atPath? origin change origin path []).map fun inner =>
        setItem key (.table origin inner) entries
    | some (.table found inner) =>
      if origin = .dotted ∧ found = .header then none
      else (atPath? origin change found path inner).map fun inner =>
        setItem key (.table found inner) entries
    | some (.elements (last :: others)) =>
      (atPath? origin change .header path last).map fun last =>
        setItem key (.elements (last :: others)) entries
    | some (.elements []) => none
    | some (.value _) => none

/-- Splits a path into the way to its last key and that key. -/
def splitPath? : List String → Option (List String × String)
  | [] => none
  | [key] => some ([], key)
  | key :: path => (splitPath? path).map fun (way, last) => (key :: way, last)

/-- Opens the table of a header: a new one, or one that was only implied before. -/
def openTable? (path : List String) (root : Entries) : Option Entries := do
  let (way, key) ← splitPath? path
  atPath? .implied
    (fun _ entries =>
      match itemAt? key entries with
      | none => some (setItem key (.table .header []) entries)
      | some (.table .implied inner) => some (setItem key (.table .header inner) entries)
      | _ => none)
    .header way root

def openElement? (path : List String) (root : Entries) : Option Entries := do
  let (way, key) ← splitPath? path
  atPath? .implied
    (fun _ entries =>
      match itemAt? key entries with
      | none => some (setItem key (.elements [[]]) entries)
      | some (.elements tables) => some (setItem key (.elements ([] :: tables)) entries)
      | _ => none)
    .header way root

/-- Adds a pair to a table. A key with several parts adds to a table made by such keys only. -/
def addPair? (path : List String) (v : Toml) (table : Entries) : Option Entries := do
  let (way, key) ← splitPath? path
  atPath? .dotted
    (fun found entries =>
      if (found = .dotted) = way.isEmpty then none
      else
        match itemAt? key entries with
        | none => some (setItem key (.value v) entries)
        | some _ => none)
    .header way table

mutual

def Item.toToml : Item → Toml
  | .value v => v
  | .table _ entries => .table (finishEntries entries)
  | .elements tables => .array (finishTables tables).reverse

def finishEntries : List (String × Item) → List (String × Toml)
  | [] => []
  | (key, item) :: rest => (key, item.toToml) :: finishEntries rest

/-- The elements of a finished array of tables. -/
def finishTables : List (List (String × Item)) → List Toml
  | [] => []
  | entries :: rest => .table (finishEntries entries) :: finishTables rest

end

/-! ## Values -/

/-- The items of an array behind its bracket, or behind a comma. -/
def arrayItems? (item? : List Char → Option (Toml × List Char)) (s : List Char) :
    Option (List Toml × List Char) :=
  match skipGap? s with
  | none => none
  | some (']' :: rest) => some ([], rest)
  | some s' =>
    match item? s' with
    | none => none
    | some (v, left) =>
      match skipGap? left with
      | some (']' :: rest) => some ([v], rest)
      | some (',' :: rest) =>
        if rest.length < s.length then
          (arrayItems? item? rest).map fun (vs, left) => (v :: vs, left)
        else none
      | _ => none
termination_by s.length

/-- A key, the sign `=` and a value. -/
def pair? (item? : List Char → Option (Toml × List Char)) (s : List Char) :
    Option ((List String × Toml) × List Char) := do
  let (path, s) ← keyPath? s
  let s ← mark? '=' s
  let (v, s) ← item? (skipSpace s)
  some ((path, v), s)

/-- The pairs of an inline table up to its brace; there is at least one. -/
def inlinePairs? (item? : List Char → Option (Toml × List Char)) (table : Entries)
    (s : List Char) : Option (Entries × List Char) :=
  match pair? item? s with
  | none => none
  | some ((path, v), left) =>
    match addPair? path v table, skipSpace left with
    | some table, '\x7d' :: rest => some (table, rest)
    | some table, ',' :: rest =>
      if rest.length < s.length then inlinePairs? item? table rest else none
    | _, _ => none
termination_by s.length

def inlineTable? (item? : List Char → Option (Toml × List Char)) (s : List Char) :
    Option (Toml × List Char) :=
  match skipSpace s with
  | '\x7d' :: rest => some (.table [], rest)
  | s => (inlinePairs? item? [] s).map fun (entries, rest) => (.table (finishEntries entries), rest)

/-- A value in which arrays and inline tables are nested at most so deep. -/
def value? : Nat → List Char → Option (Toml × List Char)
  | depth, '[' :: rest =>
    match depth with
    | 0 => none
    | depth + 1 => (arrayItems? (value? depth) rest).map fun (vs, left) => (.array vs, left)
  | depth, '\x7b' :: rest =>
    match depth with
    | 0 => none
    | depth + 1 => inlineTable? (value? depth) rest
  | _, s => scalar? s

/-! ## Documents -/

inductive Statement where
  | table (path : List String)
  | element (path : List String)
  | pair (path : List String) (v : Toml)

/-- A header or a pair, at the front of a text without leading blanks. -/
def statement? : List Char → Option (Statement × List Char)
  | '[' :: '[' :: rest => do
    let (path, s) ← keyPath? rest
    let s ← mark? ']' s
    let s ← mark? ']' s
    some (.element path, s)
  | '[' :: rest => do
    let (path, s) ← keyPath? rest
    let s ← mark? ']' s
    some (.table path, s)
  | s => (pair? (value? (nestingLimit - 1)) s).map fun ((path, v), rest) => (.pair path v, rest)

/-- The statements of a text, one a line. -/
def statements? (s : List Char) : Option (List Statement) :=
  if s.isEmpty then some []
  else
    match lineEnd? s with
    | some rest => if rest.length < s.length then statements? rest else none
    | none =>
      match statement? (skipSpace s) with
      | none => none
      | some (statement, left) =>
        match lineEnd? left with
        | none => none
        | some rest =>
          if rest.length < s.length then (statements? rest).map (statement :: ·) else none
termination_by s.length

/-- A document under construction, and the path of its open table. -/
structure Draft where
  root : Entries
  path : List String

/-- Adds to the table that a path leads to. -/
def Draft.add? (d : Draft) (path : List String) (v : Toml) : Option Draft :=
  (atPath? .implied (fun _ => addPair? path v) .header d.path d.root).map fun root =>
    { d with root := root }

def Draft.step? (d : Draft) : Statement → Option Draft
  | .table path => (openTable? path d.root).map fun root => ⟨root, path⟩
  | .element path => (openElement? path d.root).map fun root => ⟨root, path⟩
  | .pair path v => d.add? path v

/-- The text without a byte order mark. -/
def skipMark : List Char → List Char
  | '\ufeff' :: rest => rest
  | s => s

def ofDocument? (s : List Char) : Option (List (String × Toml)) := do
  let statements ← statements? (skipMark s)
  let draft ← statements.foldlM Draft.step? ⟨[], []⟩
  some (finishEntries draft.root)

end ReportPlan.Toml
