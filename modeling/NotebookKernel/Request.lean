import NotebookKernel.Json.Reader
import NotebookKernel.Json.Record

/-!
Requests of the front end, one a line.
-/

namespace NotebookKernel

/-- A request of the front end. -/
inductive Request where
  /-- Execute a cell. The header describes the request to the target. -/
  | execute (header : Json) (code : String)
  /-- Complete code at a cursor, given in characters. -/
  | complete (code : String) (cursor : Nat)
  /-- Stop serving. -/
  | shutdown (restart : Bool)
  deriving Repr, Inhabited

namespace Request

/-- A free-form value, `null` if it is missing. -/
def freeForm (value : Option Json) : Json :=
  match value with
  | some j => j.canonical
  | none => .null

/-- The content of an execute request: its code. -/
def codeOf? (content : Json) : Option String :=
  match content.recordFields? ["code"] with
  | some [some (.str code)] => some code
  | _ => none

/-- The content of a completion request: code and cursor. -/
def codeAndCursorOf? (content : Json) : Option (String × Nat) :=
  match content.recordFields? ["code", "cursor_pos"] with
  | some [some (.str code), some cursor] => cursor.word64?.map fun n => (code, n)
  | _ => none

/-- The request of a given kind, read from the fields that are not its kind. -/
def ofRecord? (kind : String) (fields : Json) : Option Request :=
  if kind = "execute_request" then
    match fields.recordFields? ["header", "content"] with
    | some [header, some content] => (codeOf? content).map (execute (freeForm header))
    | _ => none
  else if kind = "complete_request" then
    match fields.recordFields? ["content"] with
    | some [some content] => (codeAndCursorOf? content).map fun c => complete c.1 c.2
    | _ => none
  else if kind = "shutdown_request" then
    match fields.recordFields? ["content"] with
    | some [content] =>
      some (shutdown (((freeForm content).get "restart").bool?.getD false))
    | _ => none
  else none

/-- The request that a line stands for. -/
def ofLine? (line : List Char) : Option Request := do
  let j ← Json.parseRaw? line
  let (kind, fields) ← j.untag? "msg_type"
  ofRecord? kind fields

end Request

end NotebookKernel
