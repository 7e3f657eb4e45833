/-!
# TOML documents

* `Toml` — the tree of a document.
* `Toml.isBounded` — whether every number of a tree is in the range of some format.
* `Node` — a table under construction, which knows how each part of it came about: tables named by
  a header, tables implied by a longer header, tables made by dotted keys, lists of tables, and
  closed values.
* `insertPair?`, `openTable?`, `openItem?`, `insertUnder?` — the statements of a document.  Each
  fails where the format forbids it: a key set twice, a table defined twice, a closed value
  extended.
-/

namespace QueryCriteria

/-- A TOML document. -/
inductive Toml where
  | string (s : String)
  | integer (i : Int)
  | float
  /-- A number past the range of every format.  It may stand only where nobody reads it. -/
  | unbounded
  | boolean (b : Bool)
  | moment
  | array (items : List Toml)
  | table (entries : List (String × Toml))
  deriving Repr

namespace Toml

mutual

/-- Whether every number of a document is in range. -/
def isBounded : Toml → Bool
  | .unbounded => false
  | .array items => allBounded items
  | .table entries => entriesBounded entries
  | _ => true

/-- Whether every number of some documents is in range. -/
def allBounded : List Toml → Bool
  | [] => true
  | v :: vs => v.isBounded && allBounded vs

/-- Whether every number of some entries is in range. -/
def entriesBounded : List (String × Toml) → Bool
  | [] => true
  | (_, v) :: rest => v.isBounded && entriesBounded rest

end

/-- How a table came about. -/
inductive Origin where
  /-- By its own header. -/
  | header
  /-- By the header of a table inside it. -/
  | implied
  /-- By a dotted key, or extended by one after it was implied. -/
  | dotted
  deriving DecidableEq, Repr

/-- A part of a document under construction. -/
inductive Node where
  | closed (v : Toml)
  | table (origin : Origin) (entries : List (String × Node))
  /-- A list of tables, the latest first. -/
  | list (items : List (List (String × Node)))
  deriving Repr

/-- The entries of a table under construction, in order. -/
abbrev Entries := List (String × Node)

/-- Entries with the value of a present key replaced. -/
def replace (key : String) (node : Node) (entries : Entries) : Entries :=
  entries.map fun (k, v) => if k = key then (k, node) else (k, v)

/-- Entries with a value at the end of a dotted key.  The key makes missing tables and makes
implied ones its own; it leads through the latest table of a list, but sets nothing in there
itself, and it leaves tables with a header of their own alone. -/
def insertPair? (v : Toml) : List String → Entries → Option Entries
  | [], _ => none
  | [key], entries =>
    match entries.lookup key with
    | none => some (entries ++ [(key, .closed v)])
    | some _ => none
  | key :: next :: rest, entries =>
    match entries.lookup key with
    | none =>
      (insertPair? v (next :: rest) []).map fun inner => entries ++ [(key, .table .dotted inner)]
    | some (.table .header _) => none
    | some (.table _ inner) =>
      (insertPair? v (next :: rest) inner).map fun inner =>
        replace key (.table .dotted inner) entries
    | some (.list (item :: items)) =>
      if rest.isEmpty then none
      else
        (insertPair? v (next :: rest) item).map fun item => replace key (.list (item :: items)) entries
    | some _ => none

/-- Applies a change to the table that a path leads to, through the latest table of a list.
Tables that are missing on the way are implied. -/
def descend? (change : String → Entries → Option Entries) : List String → Entries → Option Entries
  | [], _ => none
  | [key], entries => change key entries
  | key :: next :: rest, entries =>
    match entries.lookup key with
    | none =>
      (descend? change (next :: rest) []).map fun inner => entries ++ [(key, .table .implied inner)]
    | some (.table origin inner) =>
      (descend? change (next :: rest) inner).map fun inner =>
        replace key (.table origin inner) entries
    | some (.list (item :: items)) =>
      (descend? change (next :: rest) item).map fun item => replace key (.list (item :: items)) entries
    | some _ => none

/-- Entries with the table of a header defined. -/
def openTable? : List String → Entries → Option Entries :=
  descend? fun key entries =>
    match entries.lookup key with
    | none => some (entries ++ [(key, .table .header [])])
    | some (.table .implied inner) => some (replace key (.table .header inner) entries)
    | some _ => none

/-- Entries with another table in the list of a header. -/
def openItem? : List String → Entries → Option Entries :=
  descend? fun key entries =>
    match entries.lookup key with
    | none => some (entries ++ [(key, .list [[]])])
    | some (.list items) => some (replace key (.list ([] :: items)) entries)
    | some _ => none

/-- Entries with a value set in the table of the latest header. -/
def insertUnder? (path key : List String) (v : Toml) (entries : Entries) : Option Entries :=
  if path.isEmpty then insertPair? v key entries
  else
    descend? (fun last entries =>
      match entries.lookup last with
      | some (.table origin inner) =>
        (insertPair? v key inner).map fun inner => replace last (.table origin inner) entries
      | some (.list (item :: items)) =>
        (insertPair? v key item).map fun item => replace last (.list (item :: items)) entries
      | _ => none) path entries

mutual

/-- The finished document of a part. -/
def Node.finish : Node → Toml
  | .closed v => v
  | .table _ entries => .table (finishEntries entries)
  | .list items => .array (finishItems items).reverse

/-- The finished entries of a table. -/
def finishEntries : List (String × Node) → List (String × Toml)
  | [] => []
  | (key, node) :: rest => (key, node.finish) :: finishEntries rest

/-- The finished tables of a list. -/
def finishItems : List (List (String × Node)) → List Toml
  | [] => []
  | item :: rest => .table (finishEntries item) :: finishItems rest

end

/-- The inline table with some dotted keys set. -/
def inline? (pairs : List (List String × Toml)) : Option Toml :=
  (pairs.foldlM (fun entries (key, v) => insertPair? v key entries) []).map fun entries =>
    .table (finishEntries entries)

end Toml

end QueryCriteria
