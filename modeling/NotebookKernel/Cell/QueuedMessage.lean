import NotebookKernel.Cell.Execution

/-!
Display messages queued inside the target.

The target keeps a queue of messages, each a sequence of byte arrays. A byte array shows the address
of its first byte in its member `_position` and its length in its member `count`; the bytes are then
copied out of target memory. A message that cannot be read is skipped, and no failure here touches
the result of the cell.
-/

namespace NotebookKernel

/-- The parts of one message, in order. -/
abbrev QueuedMessage := List Bytes

namespace QueuedMessage

/-- The bytes that a length read from the target asks for. A target reads no empty ranges. -/
def bytesAt (address : Nat) (length : Int) : Action Bytes :=
  if length = 0 then pure []
  else if length < 0 then throw (.negativeLength length)
  else Session.memoryAt address length.toNat

/-- The bytes of one part. -/
def readPart (session : Session) (part : Handle) : Action Bytes := do
  let position ← Session.member part "_position"
  let address ← liftExcept ((← Session.storage position).address 0)
  let count ← Session.member part "count"
  let stored ← Session.storage count
  let width ← liftExcept session.probedWidth
  let length ← liftExcept (stored.signed 0 width)
  bytesAt address length

/-- The bytes of several parts, up to the first that cannot be read. -/
def readParts (session : Session) : List Handle → Action QueuedMessage
  | [] => pure []
  | part :: rest => do
    let bytes ← readPart session part
    let others ← readParts session rest
    pure (bytes :: others)

/-- One message of the queue. -/
def read (session : Session) (payload : Handle) : Action QueuedMessage := do
  readParts session (← Session.children payload)

/-- The messages of a queue that can be read, in order. -/
def readAll (session : Session) : List Handle → Act (List QueuedMessage)
  | [] => pure []
  | payload :: rest => do
    match ← (read session payload).run with
    | .ok message =>
      let others ← readAll session rest
      pure (message :: others)
    | .error e =>
      Act.log (Log.warn .kernel ("skip display message: " ++ e.message))
      readAll session rest

/-- The messages of a queue whose value the target returned. -/
def readQueue (session : Session) (queue : Handle) : Act (List QueuedMessage) := do
  match ← (Session.children queue).run with
  | .ok payloads => readAll session payloads
  | .error e =>
    Act.log (Log.error .kernel ("read display message queue: " ++ e.message))
    pure []

/-- Empty the target's queue and return its messages. -/
def drain (k : Kernel) : Act (List QueuedMessage) := do
  match ← (k.execute k.language.takeQueue).run with
  | .error e =>
    Act.log (Log.error .kernel ("drain display messages: " ++ e.message))
    pure []
  | .ok (.gave queue) => readQueue k.session queue.handle
  | .ok result =>
    Act.log (Log.error .kernel
      ("expected value from display message drain, but got: " ++ result.summary))
    pure []

/-- Broadcast messages as they are, in order. -/
def broadcastAll : List QueuedMessage → Act Unit
  | [] => pure ()
  | message :: rest => do
    Act.broadcastOrWarn .kernel "publish display message:" (.parts message)
    broadcastAll rest

/-- Empty the target's queue and broadcast its messages. -/
def publish (k : Kernel) : Act Unit := do
  broadcastAll (← drain k)

end QueuedMessage

end NotebookKernel
