/-!
TOML values, and the tables that a document builds up line by line.

A table can be extended by later lines only in the way it was made. One made by a header of its own
is closed to other headers; one made in passing, on the way to a deeper table, may still get a
header; one made by a dotted key is extended by dotted keys alone.
-/

namespace NotebookKernel.Toml

/-- A TOML value. The settings hold no floating-point numbers and no dates, so of those only the
fact is kept. -/
inductive Value where
  | text (s : String)
  | integer (n : Int)
  | float
  | boolean (b : Bool)
  | datetime
  | array (items : List Value)
  | table (entries : List (String × Value))
  deriving Repr, Inhabited

/-- An entry of a table under construction. -/
inductive Node where
  /-- A value that is complete. -/
  | value (v : Value)
  /-- A table; `implicit` if it has no header of its own, `dotted` if dotted keys made it. -/
  | table (implicit dotted : Bool) (entries : List (String × Node))
  /-- Tables under one repeated header, the last of which is open. -/
  | tables (items : List (List (String × Node)))
  deriving Inhabited

/-- The entries of a table under construction. -/
abbrev Entries := List (String × Node)

namespace Entries

/-- Replace the entry of a key that has one. -/
def replace (key : String) (node : Node) : Entries → Entries
  | [] => []
  | (k, n) :: rest => if k = key then (k, node) :: rest else (k, n) :: replace key node rest

/-- Change the table at the end of a path. `byKey` says that the path stands in a dotted key, not in
a header; `dotted` tells of the table where the path starts whether dotted keys made it. Tables on
the way are made if they are missing. -/
def updateAt (byKey : Bool) (change : Bool → Entries → Option Entries) :
    (path : List String) → (dotted : Bool) → Entries → Option Entries
  | [], dotted, entries => change dotted entries
  | key :: path, _, entries =>
    match entries.lookup key with
    | none =>
      (updateAt byKey change path byKey []).map fun made =>
        entries ++ [(key, .table true byKey made)]
    | some (.value _) => none
    | some (.tables items) =>
      match items.getLast? with
      | none => none
      | some last =>
        (updateAt byKey change path false last).map fun last =>
          replace key (.tables (items.dropLast ++ [last])) entries
    | some (.table implicit dotted inner) =>
      if byKey ∧ !implicit then none
      else
        (updateAt byKey change path dotted inner).map fun inner =>
          replace key (.table implicit dotted inner) entries

/-- Add an entry under a new key. -/
def add (key : String) (node : Node) (entries : Entries) : Option Entries :=
  match entries.lookup key with
  | none => some (entries ++ [(key, node)])
  | some _ => none

/-- Add a value under a key, dotted if `path` is not empty. -/
def addValue (path : List String) (key : String) (v : Value) (entries : Entries) :
    Option Entries :=
  updateAt true
    (fun dotted inner => if dotted = path.isEmpty then none else add key (.value v) inner)
    path false entries

/-- Open the table of a header. -/
def openTable (path : List String) (key : String) (entries : Entries) : Option Entries :=
  updateAt false
    (fun _ inner =>
      match inner.lookup key with
      | some (.table true false content) => some (replace key (.table false false content) inner)
      | _ => add key (.table false false []) inner)
    path false entries

/-- Open one more table of a repeated header. -/
def openItem (path : List String) (key : String) (entries : Entries) : Option Entries :=
  updateAt false
    (fun _ inner =>
      match inner.lookup key with
      | some (.tables items) => some (replace key (.tables (items ++ [[]])) inner)
      | _ => add key (.tables [[]]) inner)
    path false entries

end Entries

mutual

/-- The value that an entry has become. -/
def Node.toValue : Node → Value
  | .value v => v
  | .table _ _ entries => .table (valuesOf entries)
  | .tables items => .array (tablesOf items)

/-- The values of a table's entries. -/
def valuesOf : List (String × Node) → List (String × Value)
  | [] => []
  | (k, n) :: rest => (k, n.toValue) :: valuesOf rest

/-- The values of repeated tables. -/
def tablesOf : List (List (String × Node)) → List Value
  | [] => []
  | entries :: rest => .table (valuesOf entries) :: tablesOf rest

end

end NotebookKernel.Toml
