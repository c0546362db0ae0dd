import NotebookKernel.Dap.Frame
import NotebookKernel.Dap.Message
import NotebookKernel.Log
import NotebookKernel.Program

/-!
The connection to a debugger, and what the kernel may ask of it.

The connection is what requesters and the reader of the debugger's stream share: which requests wait
for a response, the responses that have arrived, the output captured so far, and the events kept for
a launch. Every request of `Link` and every message that arrives is one step on it.
-/

namespace NotebookKernel.Dap

/-- The end of a wait. -/
inductive Awaited (α : Type) where
  | arrived (a : α)
  | timedOut
  /-- Nothing can arrive any more. -/
  | closed

/-- A request to the connection. -/
inductive Link.Request where
  /-- A fresh sequence number. -/
  | allocate
  /-- Expect a response to the request with this number. -/
  | expect (seq : Nat)
  /-- Expect it no longer. -/
  | forget (seq : Nat)
  /-- Write a request to the debugger. -/
  | write (request : Dap.Request)
  /-- Wait for the response to an expected request; there is none once nobody expects it. -/
  | await (seq : Nat)
  /-- The same, for as long as a launch may take. -/
  | awaitInTime (seq : Nat)
  /-- From now on keep events. -/
  | listen
  /-- Keep no more events. -/
  | unlisten
  /-- Wait for an event that matters to a launch waiting for the one with this name, for as long as
  a launch may take. Events before it are dropped. -/
  | awaitEvent (name : String)
  /-- Take captured output: at most `limit` bytes, but at least one character if there is any. -/
  | takeOutput (limit : Nat)
  /-- The number of captured characters. -/
  | unreadOutput
  /-- The process number of the target, once the debugger reported it. -/
  | debuggee
  /-- Send the interrupt signal to a process. -/
  | signal (process : Int)
  /-- Kill the debugger, if it was started for this connection. -/
  | killServer
  | log (record : Log.Record)

/-- The answer to a request to the connection. -/
abbrev Link.Answer : Link.Request → Type
  | .allocate => Nat
  | .expect _ => Unit
  | .forget _ => Unit
  | .write _ => Except Error Unit
  | .await _ => Option Response
  | .awaitInTime _ => Awaited Response
  | .listen => Unit
  | .unlisten => Unit
  | .awaitEvent _ => Awaited Event
  | .takeOutput _ => String
  | .unreadOutput => Nat
  | .debuggee => Option Int
  | .signal _ => Except Errno Unit
  | .killServer => Unit
  | .log _ => Unit

/-- The connection as a program's surroundings. -/
abbrev Link : Interface := ⟨Link.Request, Link.Answer⟩

/-- What requesters and the reader share. -/
structure Connection where
  nextSeq : Nat
  /-- Numbers of requests whose response is expected and has not arrived. -/
  pending : List Nat
  /-- Responses that have arrived and were not fetched, by the number of their request. -/
  delivered : List (Nat × Response)
  /-- Captured output. -/
  output : List Char
  listening : Bool
  /-- Events kept for a launch, the oldest first. -/
  events : List Event
  debuggee : Option Int
  /-- The reader still reads. -/
  reading : Bool
  /-- Bytes that have arrived and make no full message. -/
  unread : Bytes
  deriving Inhabited

namespace Connection

/-- A new connection. -/
def fresh : Connection :=
  { nextSeq := 1, pending := [], delivered := [], output := [], listening := false, events := []
    debuggee := none, reading := true, unread := [] }

/-- The longest start of a text with at most `limit` bytes, and the rest. -/
def splitBytes (limit : Nat) : List Char → List Char × List Char
  | [] => ([], [])
  | c :: cs =>
    if c.utf8Size ≤ limit then
      let (front, rest) := splitBytes (limit - c.utf8Size) cs
      (c :: front, rest)
    else ([], c :: cs)

/-- The part of a text that one read takes, and what stays: as many whole characters as fit into
`limit` bytes, or the first character if none does. -/
def splitOutput (limit : Nat) (text : List Char) : List Char × List Char :=
  match splitBytes limit text with
  | ([], c :: rest) => ([c], rest)
  | split => split

/-- Process numbers have 32 bits. -/
def processNumber (n : Int) : Int :=
  n.bmod (Nat.pow 2 32)

/-- Take a response: it goes to the request with its number if that one is expected, and to nobody
else. -/
def deliverResponse (c : Connection) (r : Response) : Connection × List Log.Record :=
  match c.pending.find? fun (seq : Nat) => decide ((seq : Int) = r.requestSeq) with
  | some seq =>
    ({ c with pending := c.pending.erase seq, delivered := c.delivered ++ [(seq, r)] }, [])
  | none => (c, [Log.warn .dap s!"response to unknown request {r.requestSeq}"])

/-- Keep an event for a launch. -/
def keepEvent (c : Connection) (e : Event) : Connection :=
  if c.listening then { c with events := c.events ++ [e] } else c

/-- Capture the text of an output event, if it is ordinary output of the target. -/
def captureOutput (c : Connection) (body : Json) : Connection :=
  if (body.get "category").text? = some "stdout" then
    { c with output := c.output ++ ((body.get "output").text?.getD "").toList }
  else c

/-- Take an event. All but output is kept for a launch that listens. -/
def deliverEvent (c : Connection) (e : Event) : Connection × List Log.Record :=
  if e.name = "output" then
    (c.captureOutput e.body, [])
  else if e.name = "process" then
    match (e.body.get "systemProcessId").int64? with
    | some n => ({ c with debuggee := some (processNumber n) }.keepEvent e, [])
    | none => (c.keepEvent e, [])
  else if e.isEnd then
    (c.keepEvent e, [Log.warn .dap ("target " ++ e.name ++ ": " ++ e.body.render)])
  else (c.keepEvent e, [])

/-- Take a message from the debugger. -/
def deliver (c : Connection) (message : Json) : Connection × List Log.Record :=
  match Message.ofJson? message with
  | some (.response r) => c.deliverResponse r
  | some (.event e) => c.deliverEvent e
  | some (.reverseRequest content) =>
    (c, [Log.warn .dap ("reverse request ignored: " ++ content.render)])
  | none => (c, [Log.warn .dap "malformed adapter message: not a protocol message"])

/-- The reader ends: requests that wait for a response will get none. -/
def hangUp (c : Connection) : Connection :=
  { c with reading := false, pending := [] }

/-- The reader dies: nobody is told, and requests that wait for a response go on waiting. -/
def die (c : Connection) : Connection :=
  { c with reading := false }

/-- Read messages from the bytes that have arrived until they are used up or the reader ends. Every
message takes at least one byte, and `fuel` is more than their number. -/
def readMessages (ended : Bool) : (fuel : Nat) → Connection → Connection × List Log.Record
  | 0, c => (c, [])
  | fuel + 1, c =>
    match Frame.next ended c.unread with
    | .more _ => (c, [])
    | .message j rest =>
      let (c, first) := { c with unread := rest }.deliver j
      let (c, others) := readMessages ended fuel c
      (c, first ++ others)
    | .failure .disconnected rest => ({ c with unread := rest }.hangUp, [])
    | .failure e rest =>
      ({ c with unread := rest }.hangUp, [Log.error .dap ("read adapter message: " ++ e.message)])
    | .overflow rest => ({ c with unread := rest }.die, [])

/-- How many bytes a reader may wait for that cannot wait for a part of them. -/
def missing (c : Connection) : Nat :=
  match Frame.next false c.unread with
  | .more n => n
  | _ => 1

/-- Bytes arrive from the debugger; `ended` says that no more will. -/
def receive (c : Connection) (bytes : Bytes) (ended : Bool) : Connection × List Log.Record :=
  if c.reading then
    let unread := c.unread ++ bytes
    readMessages ended (unread.length + 1) { c with unread }
  else (c, [])

/-- Fetch the response to a request. `none` while it may still arrive; no response if nobody expects
it. -/
def fetch? (c : Connection) (seq : Nat) : Option (Option Response × Connection) :=
  match c.delivered.lookup seq with
  | some r => some (some r, { c with delivered := c.delivered.filter (·.1 ≠ seq) })
  | none => if seq ∈ c.pending then none else some (none, c)

/-- The step that a request is on the connection. `none` while the request has to wait, and for the
requests that go beyond the connection: writing, signals, processes and the log. -/
def answer? (c : Connection) : (r : Link.Request) → Option (Link.Answer r × Connection)
  | .allocate => some (c.nextSeq, { c with nextSeq := c.nextSeq + 1 })
  | .expect seq => some ((), { c with pending := seq :: c.pending })
  | .forget seq => some ((), { c with pending := c.pending.erase seq })
  | .await seq => c.fetch? seq
  | .awaitInTime seq =>
    (c.fetch? seq).map fun
      | (some r, c) => (.arrived r, c)
      | (none, c) => (.closed, c)
  | .listen => some ((), { c with listening := true, events := [] })
  | .unlisten => some ((), { c with listening := false, events := [] })
  | .awaitEvent name =>
    match c.events.dropWhile fun e => !e.matters name with
    | e :: rest => some (.arrived e, { c with events := rest })
    | [] => if c.listening then none else some (.closed, c)
  | .takeOutput limit =>
    let (front, rest) := splitOutput limit c.output
    some (String.ofList front, { c with output := rest })
  | .unreadOutput => some (c.output.length, c)
  | .debuggee => some (c.debuggee, c)
  | .write _ | .signal _ | .killServer | .log _ => none

end Connection

end NotebookKernel.Dap
