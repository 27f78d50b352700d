import Runbook.Toml.Value

/-!
# Tables under construction

The statements of a document build its tables piece by piece, and not every piece may be added to.
A `Node` remembers how a table came about: named by a header of its own, implied by the header of a
table inside it, or made by a dotted key. `Nodes.assign` adds a value under a dotted key, and
`Nodes.header` and `Nodes.element` open the table or the array element that a header names. Each
refuses to define anything twice: a key that has a value, a table that has had its header, and a
table that another kind of statement has made.
-/

namespace Runbook.Toml

/-- How a table came about. -/
inductive Origin where
  /-- It was implied by the header of a table inside it. -/
  | implied
  /-- It was named by a header. -/
  | header
  /-- It was made by a dotted key. -/
  | dotted
  deriving Repr, DecidableEq

/-- An entry of a table under construction. -/
inductive Node where
  /-- A value that is complete. -/
  | value (value : Value)
  | table (origin : Origin) (entries : List (Text × Node))
  /-- An array of tables, each opened by a header. The last one is still added to. -/
  | tables (elements : List (List (Text × Node)))

/-- A table under construction: keys and what they stand for. -/
abbrev Nodes := List (Text × Node)

namespace Nodes

/-- The same table with the entry of `key` replaced or added. -/
def put (nodes : Nodes) (key : Text) (node : Node) : Nodes :=
  if nodes.any (·.1 = key) then nodes.map fun entry => if entry.1 = key then (key, node) else entry
  else nodes ++ [(key, node)]

/-- What `key` stands for. -/
def get? (nodes : Nodes) (key : Text) : Option Node := nodes.lookup key

/-- Changes the table that the keys of a header lead to. Tables on the way that do not exist are
implied; of an array of tables, the last element is meant. -/
def descend (change : Nodes → Option Nodes) : List Text → Nodes → Option Nodes
  | [], nodes => change nodes
  | key :: path, nodes =>
    match nodes.get? key with
    | none => (descend change path []).map fun entries => nodes.put key (.table .implied entries)
    | some (.table origin entries) =>
      (descend change path entries).map fun entries => nodes.put key (.table origin entries)
    | some (.tables elements) =>
      (descend change path (elements.getLast?.getD [])).map fun last =>
        nodes.put key (.tables (elements.dropLast ++ [last]))
    | some (.value _) => none

/-- Adds a value under a dotted key. Tables on the way are made if they do not exist; those that
exist must not have had a header, and the innermost must have been made by a dotted key. -/
def assign (value : Value) : List Text → Nodes → Option Nodes
  | [], _ => none
  | [key], nodes =>
    match nodes.get? key with
    | none => some (nodes.put key (.value value))
    | some _ => none
  | key :: path, nodes =>
    match nodes.get? key with
    | none => (assign value path []).map fun entries => nodes.put key (.table .dotted entries)
    | some (.table origin entries) =>
      if origin = .header || (path.length = 1 && origin ≠ .dotted) then none
      else (assign value path entries).map fun entries => nodes.put key (.table origin entries)
    | some (.tables elements) =>
      if path.length = 1 then none
      else (assign value path (elements.getLast?.getD [])).map fun last =>
        nodes.put key (.tables (elements.dropLast ++ [last]))
    | some (.value _) => none

/-- Opens the table that a header names by a key of its parent. -/
def openTable (key : Text) (nodes : Nodes) : Option Nodes :=
  match nodes.get? key with
  | none => some (nodes.put key (.table .header []))
  | some (.table .implied entries) => some (nodes.put key (.table .header entries))
  | some _ => none

/-- Opens one more element of the array of tables that a header names by a key of its parent. -/
def openElement (key : Text) (nodes : Nodes) : Option Nodes :=
  match nodes.get? key with
  | none => some (nodes.put key (.tables [[]]))
  | some (.tables elements) => some (nodes.put key (.tables (elements ++ [[]])))
  | some _ => none

end Nodes

/-- Adds an entry to a table in the order of the keys. -/
def insertSorted (key : Text) (value : Value) : Table → Table
  | [] => [(key, value)]
  | entry :: rest =>
    if key < entry.1 then (key, value) :: entry :: rest else entry :: insertSorted key value rest

mutual

/-- The value that an entry under construction has become. -/
def Node.finish : Node → Value
  | .value value => value
  | .table _ entries => .table (finishEntries entries)
  | .tables elements => .array (finishElements elements)

/-- The table that a table under construction has become. -/
def finishEntries : List (Text × Node) → Table
  | [] => []
  | (key, node) :: rest => insertSorted key node.finish (finishEntries rest)

/-- The tables that the elements of an array have become. -/
def finishElements : List (List (Text × Node)) → List Value
  | [] => []
  | entries :: rest => .table (finishEntries entries) :: finishElements rest

end

end Runbook.Toml
