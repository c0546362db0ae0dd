import NotebookKernel.Kernel
import NotebookKernel.Request

/-!
Serving a front end: requests come in one a line, and each is answered by one reply line after the
notifications that it caused.
-/

namespace NotebookKernel

/-- What came of serving one request. -/
inductive Served where
  | more
  /-- The front end asked for the end. -/
  | finished
  deriving Repr, DecidableEq, Inhabited

namespace Serve

/-- The lines of an input. A line ends at a line feed, with the carriage return before it; the last
line need not end, and is none if it is empty. -/
def lines : Bytes → List Bytes
  | [] => []
  | b :: rest =>
    if b = 0x0A then [] :: lines rest
    else if b = 0x0D ∧ rest.head? = some 0x0A then lines rest
    else
      match rest, lines rest with
      | [], _ => [[b]]
      | _ :: _, [] => [[b]]
      | _ :: _, l :: ls => (b :: l) :: ls

/-- Write the reply to a request of the given kind. -/
def reply (kind : String) (content : Json) : KernelAction Unit :=
  KernelAction.reading fun _ => Act.host (.reply kind content)

/-- Answer a request. -/
def answer : Request → KernelAction Served
  | .execute header code => do
    modify Kernel.nextCell
    let result ← (Kernel.answerCell code header : KernelAct ExecuteReply)
    reply "execute" result.toJson
    pure .more
  | .complete code cursor => do
    let result ← KernelAction.reading fun k => (Except.ok <$> k.complete code cursor : Act _)
    reply "complete" ((result.map CompleteReply.toJson).getD .null)
    pure .more
  | .shutdown restart => do
    reply "shutdown" (.object [("status", .str "ok"), ("restart", .bool restart)])
    pure .finished

/-- Serve one line. A blank line is skipped, and so is one that is no request, with a warning. -/
def line (text : List Char) : KernelAction Served :=
  if Text.trim text = [] then pure .more
  else
    match Request.ofLine? text with
    | some request => answer request
    | none => do
      let warning := Log.warn .kernel "malformed request skipped: not a request"
      KernelAction.reading fun _ => (Except.ok <$> Act.log warning : Act _)
      pure .more

/-- Serve lines until a shutdown request or the end. Lines have to be UTF-8. -/
def all : List Bytes → KernelAction Unit
  | [] => pure ()
  | bytes :: rest =>
    match Utf8.decode bytes with
    | .error _ => throw (.stream .notText)
    | .ok text => do
      match ← line text with
      | .more => all rest
      | .finished => pure ()

/-- Serve an input. -/
def input (bytes : Bytes) : KernelAction Unit :=
  all (lines bytes)

end Serve

end NotebookKernel
