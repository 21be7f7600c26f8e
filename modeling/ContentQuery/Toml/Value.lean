/-
# Values of a configuration document

The data of a TOML document, and the tree that it is read into. A document may say the same table
in several places, and whether it may do so depends on how the table was said before; so the tree
keeps for each table where it comes from. Once the document has been read only the data is left.
-/

namespace ContentQuery.Toml

/-- A value of a document. Numbers and dates are kept as they were written. -/
inductive Value
  | string (text : String)
  | number (text : String)
  | dateTime (text : String)
  | bool (value : Bool)
  | array (items : List Value)
  | table (entries : List (String × Value))

/-- Where a table comes from. -/
inductive Origin
  /-- It lies on the way to a table that has a header. -/
  | implied
  /-- It lies on the way to a key with points. -/
  | dotted
  /-- It has a header of its own. -/
  | headed
deriving DecidableEq, Repr

/-- A place of the tree. -/
inductive Node
  /-- A value that was written in one piece, and is closed. -/
  | leaf (value : Value)
  | table (origin : Origin) (entries : List (String × Node))
  /-- An array whose tables have headers; only the last one is open. -/
  | tables (earlier : List Value) (last : List (String × Node))

/-- The entries of a table that is still being read. -/
abbrev Entries := List (String × Node)

mutual

/-- The data of a place. -/
def Node.toValue : Node → Value
  | .leaf value => value
  | .table _ entries => .table (closeEntries entries)
  | .tables earlier last => .array (earlier ++ [.table (closeEntries last)])

/-- The data of all entries of a table. -/
def closeEntries : List (String × Node) → List (String × Value)
  | [] => []
  | (key, node) :: rest => (key, node.toValue) :: closeEntries rest

end

namespace Entries

/-- The entries with another node under a key that they have. -/
def replace (entries : Entries) (key : String) (node : Node) : Entries :=
  entries.map fun entry => if entry.1 = key then (key, node) else entry

/-- Sets a value under a path of keys. The tables on the way are made where they are missing;
those that are there must have been made by such a path. The last key must be new. -/
def insert (value : Value) : List String → String → Entries → Option Entries
  | [], key, entries =>
    match entries.lookup key with
    | none => some (entries ++ [(key, .leaf value)])
    | some _ => none
  | step :: path, key, entries =>
    match entries.lookup step with
    | none => (insert value path key []).map fun inner =>
      entries ++ [(step, .table .dotted inner)]
    | some (.table .dotted inner) => (insert value path key inner).map fun inner =>
      entries.replace step (.table .dotted inner)
    | some _ => none

/-- Changes the table that a path of keys leads to. Tables on the way are made where they are
missing, and an array of tables is entered at its last one. -/
def alter (change : Entries → Option Entries) : List String → Entries → Option Entries
  | [], entries => change entries
  | step :: path, entries =>
    match entries.lookup step with
    | none => (alter change path []).map fun inner =>
      entries ++ [(step, .table .implied inner)]
    | some (.table origin inner) => (alter change path inner).map fun inner =>
      entries.replace step (.table origin inner)
    | some (.tables earlier last) => (alter change path last).map fun last =>
      entries.replace step (.tables earlier last)
    | some (.leaf _) => none

/-- Opens the table of a header. Only a table that was implied until now may be there already. -/
def openTable (key : String) (entries : Entries) : Option Entries :=
  match entries.lookup key with
  | none => some (entries ++ [(key, .table .headed [])])
  | some (.table .implied inner) => some (entries.replace key (.table .headed inner))
  | some _ => none

/-- Opens the next table of an array of tables. -/
def openElement (key : String) (entries : Entries) : Option Entries :=
  match entries.lookup key with
  | none => some (entries ++ [(key, .tables [] [])])
  | some (.tables earlier last) =>
    some (entries.replace key (.tables (earlier ++ [.table (closeEntries last)]) []))
  | some _ => none

end Entries

end ContentQuery.Toml
