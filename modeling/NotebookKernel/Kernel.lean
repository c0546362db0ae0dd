import NotebookKernel.Cell.Run

/-!
The kernel: its start, the replies to execute requests, and code completion.
-/

namespace NotebookKernel

/-- What a kernel is started with. -/
structure StartPlan where
  language : TargetLanguage
  launch : LaunchPlan
  identity : NotebookIdentity
  includePath : IncludePath
  /-- How many bytes of output one read takes at most. -/
  chunkSize : Nat
  /-- The time limit of evaluations in microseconds. -/
  timeout : Option Nat

/-- The reply to an execute request. -/
inductive ExecuteReply where
  | ok (count : UInt32)
  | error (count : UInt32) (content : ErrorReport)
  deriving Repr, DecidableEq, Inhabited

namespace ExecuteReply

/-- The cell ran to its end. -/
def isOk : ExecuteReply → Bool
  | ok _ => true
  | error _ _ => false

/-- The traceback of an error. -/
def traceback : ExecuteReply → List String
  | ok _ => []
  | error _ content => content.traceback

/-- A reply as JSON. -/
def toJson : ExecuteReply → Json
  | ok count =>
    .object [("status", .str "ok"), ("execution_count", .ofCount count), ("payload", .arr []),
      ("user_expressions", .obj [])]
  | error count content =>
    .object (("status", .str "error") :: ("execution_count", .ofCount count) :: content.fields)

end ExecuteReply

/-- The reply to a completion request. -/
structure CompleteReply where
  matchTexts : List String
  /-- The part of the code that a match replaces, in characters. -/
  cursorStart : Nat
  cursorEnd : Nat
  deriving Repr, DecidableEq, Inhabited

namespace CompleteReply

/-- A reply without matches. -/
def empty (cursor : Nat) : CompleteReply :=
  ⟨[], cursor, cursor⟩

/-- The reply for what the debugger offers. Names that start with an underscore are private. -/
def ofCompletion (completion : Completion) (cursor : Nat) : CompleteReply :=
  { matchTexts :=
      (completion.insertables.map (completion.stem ++ ·)).filter fun candidate =>
        candidate.toList.head? ≠ some '_'
    cursorStart := cursor - completion.stem.length
    cursorEnd := cursor }

/-- A reply as JSON. -/
def toJson (r : CompleteReply) : Json :=
  .object [("status", .str "ok"), ("matches", .texts r.matchTexts),
    ("cursor_start", .int r.cursorStart), ("cursor_end", .int r.cursorEnd)]

end CompleteReply

namespace Kernel

/-- A kernel for a launched target, before the first snippet. -/
def ofSession (settings : StartPlan) (session : Session) (canComplete : Bool) :
    Kernel :=
  { session
    expander := ⟨settings.language, settings.includePath⟩
    completion := .ofSupport canComplete
    counter := 0
    chunkSize := settings.chunkSize }

/-- Run a snippet of the start, which may not fail; `complaint` says what it was for. -/
def runSnippet (complaint source : String) : KernelAction Unit := do
  let result ← expandAndSubmit source
  match result.failureText with
  | none => pure ()
  | some description => throw (.startup (complaint ++ ": " ++ description))

/-- Bring the target's side of the communication into the target. -/
def startCommunicator (identity : NotebookIdentity) : KernelAction Unit := do
  let k ← get
  match k.language.communicator with
  | none => pure ()
  | some file =>
    runSnippet "Error initing communicator" ("%include \"" ++ file ++ "\"")
    runSnippet "Error declaring session" (k.language.declareSession identity)

/-- The width that the description of a probe's value gives. -/
def widthOfDescription (probe description : String) : Except Error NativeWidth :=
  match Numeral.below? (Nat.pow 2 32) (Text.trim description.toList) with
  | none => .error (.refusedSnippet probe description)
  | some bits => NativeWidth.ofBits bits

/-- Ask the target for the width of its native integers. -/
def probeWidth (k : Kernel) : Action NativeWidth := do
  let probe := k.language.widthProbe
  match ← k.execute probe with
  | .gave value => liftExcept (widthOfDescription probe value.description)
  | result =>
    throw (.startup ("Expected value from " ++ probe ++ ", but got: " ++ result.summary))

/-- Prepare a launched target for cells. -/
def prepare (identity : NotebookIdentity) : KernelAction Unit := do
  startCommunicator identity
  let width ← KernelAction.reading probeWidth
  modify fun k => { k with session := k.session.fixWidth width }

/-- Launch the target and prepare it for cells. Any failure ends the start. -/
def start (settings : StartPlan) : Action Kernel := do
  let options := RunOptions.forCells settings.language.name settings.timeout
  let session ← Session.launch settings.launch options
  let canComplete ← Act.debugger .canComplete
  let (result, k) ←
    (prepare settings.identity).run.run (ofSession settings session canComplete)
  liftExcept result
  pure k

/-- What a user is told when the kernel itself fails. -/
def restartAdvice : String := "Kernel is in a bad state. Try restarting the kernel."

/-- The traceback for an error inside the kernel. -/
def internalTraceback (operation : String) (e : Error) : List String :=
  [restartAdvice, "", "Exception in `" ++ operation ++ "`:", e.message]

/-- Broadcast an error and reply with it. -/
def broadcastError (k : Kernel) (traceback : List String) : Act ExecuteReply := do
  let content := ErrorReport.ofTraceback traceback
  Act.broadcastOrWarn .kernel "publish error:" (.notification (.error content))
  pure (.error k.counter content)

/-- Log an error inside the kernel, and report it. -/
def reportInternal (k : Kernel) (operation : String) (e : Error) : Act ExecuteReply := do
  Act.log (Log.error .kernel (operation ++ ": " ++ e.message ++ s!" (fatal: {e.isFatal})"))
  k.broadcastError (internalTraceback operation e)

/-- The traceback for a fault: the message is already in the output, the frames are not. -/
def faultTraceback (frames : List String) : List String :=
  "Current stack trace:" :: frames.map ("\t" ++ ·)

/-- Report a cell that did not compile or faulted. Without output it did not compile, and the stack
is of no interest. -/
def reportFailure (k : Kernel) (description : String) (printed : Bool) : Act ExecuteReply := do
  if printed then
    match ← k.session.mainTrace.run with
    | .ok frames => k.broadcastError (faultTraceback frames)
    | .error e => k.reportInternal "main_thread_trace" e
  else
    k.broadcastError [description]

/-- Report what came of a cell. -/
def report (k : Kernel) : Except Error CellResult → Act ExecuteReply
  | .error e => k.reportInternal "execute_cell" e
  | .ok ⟨.finished, _⟩ => pure (.ok k.counter)
  | .ok ⟨.gave value, _⟩ => do
    Act.broadcastOrWarn .kernel "publish execution result:"
      (.notification (.textResult k.counter value.description))
    pure (.ok k.counter)
  | .ok ⟨.notExpanded e, _⟩ => k.broadcastError [e.message]
  | .ok ⟨.failed value, printed⟩ => k.reportFailure value.description printed

/-- Execute a cell, broadcast its value or its error, and reply. -/
def answerCell (source : String) (parent : Json) : KernelAct ExecuteReply := do
  let outcome ← (runCell source parent).run
  (← get).report outcome

/-- Complete code at a cursor, given in characters. There is no reply while completion is off, and
one without matches if the debugger fails. -/
def complete (k : Kernel) (code : String) (cursor : Nat) : Act (Option CompleteReply) := do
  if k.completion.enabled then
    match ← (k.session.complete (String.ofList (code.toList.take cursor))).run with
    | .ok completion => pure (some (.ofCompletion completion cursor))
    | .error e =>
      Act.log (Log.warn .kernel ("code completion: " ++ e.message))
      pure (some (.empty cursor))
  else
    pure none

/-- Kill the target. -/
def shutdown : Action Unit :=
  Session.terminate

end Kernel

end NotebookKernel
