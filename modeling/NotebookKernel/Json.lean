/-!
JSON values: the data that requests, replies, debugger messages and request contexts are made of.

An object is the list of its fields. Values that were read have their keys sorted and distinct;
a writer that needs another order, such as the order in which a message declares its fields, builds
the list itself.
-/

namespace NotebookKernel

/-- A JSON value. -/
inductive Json where
  | null
  | bool (b : Bool)
  /-- An integer between `-2 ^ 63` and `2 ^ 64 - 1`. -/
  | int (n : Int)
  /-- Any other number, as the bits of a finite double. -/
  | float (bits : UInt64)
  | str (text : String)
  | arr (items : List Json)
  | obj (fields : List (String × Json))
  deriving Repr, Inhabited

namespace Json

/-- A text value. -/
instance : Coe String Json := ⟨str⟩

/-- Put a field into a list of fields with sorted keys; a field of that name is replaced. -/
def insertField (key : String) (value : Json) : List (String × Json) → List (String × Json)
  | [] => [(key, value)]
  | (k, v) :: rest =>
    if key < k then (key, value) :: (k, v) :: rest
    else if key = k then (key, value) :: rest
    else (k, v) :: insertField key value rest

/-- Fields in the order of their keys; of two fields with one name the later counts. -/
def sortFields (fields : List (String × Json)) : List (String × Json) :=
  fields.foldl (fun sorted f => insertField f.1 f.2 sorted) []

/-- The object with the given fields, its keys sorted. -/
def object (fields : List (String × Json)) : Json :=
  obj (sortFields fields)

mutual

/-- The same value with the keys of every object sorted and distinct. -/
def canonical : Json → Json
  | arr items => arr (canonicalItems items)
  | obj fields => obj (sortFields (canonicalFields fields))
  | j => j

/-- Every item in canonical form. -/
def canonicalItems : List Json → List Json
  | [] => []
  | j :: rest => canonical j :: canonicalItems rest

/-- Every field's value in canonical form. -/
def canonicalFields : List (String × Json) → List (String × Json)
  | [] => []
  | (k, j) :: rest => (k, canonical j) :: canonicalFields rest

end

/-- The value of a field; a missing field, or a value without fields, gives `null`. -/
def get (key : String) : Json → Json
  | obj fields => (fields.lookup key).getD null
  | _ => null

/-- The text of a text value. -/
def text? : Json → Option String
  | str s => some s
  | _ => none

/-- A truth value. -/
def bool? : Json → Option Bool
  | bool b => some b
  | _ => none

/-- An integer of 64 bits with a sign. -/
def int64? : Json → Option Int
  | int n => if -Int.pow 2 63 ≤ n ∧ n < Int.pow 2 63 then some n else none
  | _ => none

/-- An integer of 64 bits without a sign. -/
def word64? : Json → Option Nat
  | int n => if 0 ≤ n ∧ n < Int.pow 2 64 then some n.toNat else none
  | _ => none

/-- The items of an array. -/
def items? : Json → Option (List Json)
  | arr items => some items
  | _ => none

/-- A list of texts. -/
def texts (l : List String) : Json :=
  arr (l.map str)

/-- A text, or `null`. -/
def ofText? : Option String → Json
  | some s => str s
  | none => null

end Json

end NotebookKernel
