import NotebookKernel.Json.Record

/-!
Messages of the debug adapter protocol: requests of the kernel, and what a debugger sends.
-/

namespace NotebookKernel.Dap

/-- A request to the debugger. -/
structure Request where
  seq : Nat
  command : String
  arguments : Json
  deriving Repr, Inhabited

/-- A request as JSON. -/
def Request.toJson (r : Request) : Json :=
  .obj [("seq", .int r.seq), ("type", .str "request"), ("command", .str r.command),
    ("arguments", r.arguments)]

/-- The response to a request. -/
structure Response where
  /-- The number of the request that is answered. -/
  requestSeq : Int
  success : Bool
  command : String
  message : Option String
  body : Json
  deriving Repr, Inhabited

/-- The best text that a failed response offers: the error's own, else the message. -/
def Response.failureText (r : Response) : String :=
  match ((r.body.get "error").get "format").text? with
  | some format => format
  | none => r.message.getD (r.command ++ " failed")

/-- An event that the debugger reports. -/
structure Event where
  name : String
  body : Json
  deriving Repr, Inhabited

/-- The event says that the target is gone. -/
def Event.isEnd (e : Event) : Bool :=
  e.name = "exited" || e.name = "terminated"

/-- The event ends the wait for the one called `name`, well or badly. -/
def Event.matters (name : String) (e : Event) : Bool :=
  e.name = name || e.isEnd

/-- A message from the debugger. -/
inductive Message where
  | response (r : Response)
  | event (e : Event)
  /-- A request of the debugger's own; there are none that the kernel serves. -/
  | reverseRequest (content : Json)
  deriving Repr, Inhabited

namespace Message

/-- A text that may be missing. -/
def optionalText? : Option Json → Option (Option String)
  | none => some none
  | some .null => some none
  | some (.str s) => some (some s)
  | some _ => none

/-- The fields of a response. -/
def responseOf? (j : Json) : Option Response :=
  match j.recordFields? ["request_seq", "success", "command", "message", "body"] with
  | some [some seq, some (.bool success), some (.str command), message, body] =>
    match seq.int64?, optionalText? message with
    | some requestSeq, some message =>
      some { requestSeq, success, command, message, body := body.getD .null }
    | _, _ => none
  | _ => none

/-- The fields of an event. -/
def eventOf? (j : Json) : Option Event :=
  match j.recordFields? ["event", "body"] with
  | some [some (.str name), body] => some { name, body := body.getD .null }
  | _ => none

/-- The message that a JSON value stands for. -/
def ofJson? (j : Json) : Option Message :=
  match j.untag? "type" with
  | some (kind, fields) =>
    if kind = "response" then (responseOf? fields).map response
    else if kind = "event" then (eventOf? fields).map event
    else if kind = "request" then some (reverseRequest fields)
    else none
  | none => none

end Message

end NotebookKernel.Dap
