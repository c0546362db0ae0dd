import NotebookKernel.Json
import NotebookKernel.Target.Value

/-!
The values a debugger has shown since the last evaluation began.

A handle is the place of a value in the table together with the number of the evaluation. The next
evaluation empties the table and counts on, so an old handle never finds a new value.
-/

namespace NotebookKernel.Dap

/-- What is known of a value. -/
structure KnownValue where
  name : Option String
  description : String
  typeName : Option String
  /-- The debugger's reference for the value's children, zero if it has none. -/
  variablesReference : Int
  memoryReference : Option String
  error : Option String
  deriving Repr, DecidableEq, Inhabited

namespace KnownValue

/-- A value that is nothing but an error. -/
def ofError (text : String) : KnownValue :=
  { name := none, description := text, typeName := none, variablesReference := 0
    memoryReference := none, error := some text }

/-- What JSON tells of a value, whose description is in the field `textField`. Mistyped fields count
as missing, and so does an empty type. -/
def ofJson (name : Option String) (textField : String) (j : Json) : KnownValue :=
  { name
    description := (j.get textField).text?.getD ""
    typeName := (j.get "type").text?.filter (· ≠ "")
    variablesReference := (j.get "variablesReference").int64?.getD 0
    memoryReference := (j.get "memoryReference").text?
    error := none }

/-- A child of a value. -/
def ofVariable (j : Json) : KnownValue :=
  ofJson (j.get "name").text? "value" j

/-- The result of an evaluation. -/
def ofResult (j : Json) : KnownValue :=
  ofJson none "result" j

/-- Nothing is known of the value: there is none. -/
def isVoid (e : KnownValue) : Bool :=
  e.description = "" && e.typeName.isNone && e.variablesReference = 0

end KnownValue

/-- The values shown since the last evaluation began. -/
structure KnownValues where
  generation : Nat
  entries : List KnownValue
  deriving Repr, DecidableEq, Inhabited

namespace KnownValues

/-- Before the first evaluation. -/
def empty : KnownValues :=
  ⟨0, []⟩

/-- An evaluation begins: all handles become stale. -/
def nextGeneration (t : KnownValues) : KnownValues :=
  ⟨t.generation + 1, []⟩

/-- Add a value; the handle finds it. -/
def insert (t : KnownValues) (e : KnownValue) : Handle × KnownValues :=
  (⟨t.entries.length, t.generation⟩, { t with entries := t.entries ++ [e] })

/-- Add several values, in order. -/
def insertAll (t : KnownValues) : List KnownValue → List Handle × KnownValues
  | [] => ([], t)
  | e :: rest =>
    let (ref, t) := t.insert e
    let (refs, t) := t.insertAll rest
    (ref :: refs, t)

/-- The value that a handle was issued for. -/
def find (t : KnownValues) (ref : Handle) : Except Error KnownValue :=
  if ref.generation = t.generation then
    match t.entries[ref.id]? with
    | some e => .ok e
    | none => .error (.unknownHandle ref.id)
  else .error (.staleHandle ref.id ref.generation)

end KnownValues

end NotebookKernel.Dap
