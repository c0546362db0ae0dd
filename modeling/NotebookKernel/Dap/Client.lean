import NotebookKernel.Debugger
import NotebookKernel.Dap.Connection
import NotebookKernel.Dap.KnownValues
import NotebookKernel.Text.Alphanumeric
import NotebookKernel.Text.Base64
import NotebookKernel.Text.Scalar

/-!
A debugger that speaks the debug adapter protocol.

Each request of the kernel becomes requests over the connection. The client remembers what the
debugger can do, the target's main thread, and the values shown since the last evaluation began.
-/

namespace NotebookKernel.Dap

/-- What the client remembers. -/
structure Client where
  capabilities : Json
  mainThread : Option ThreadId
  values : KnownValues
  deriving Inhabited

/-- What the client does over the connection. -/
abbrev LinkAct := Program Link

/-- What the client does over the connection with what it remembers, perhaps ending in an error. -/
abbrev ClientAction := ExceptT Error (StateT Client LinkAct)

namespace Client

/-- A client that has not launched a target. -/
def fresh : Client :=
  ⟨.null, none, .empty⟩

/-- A request to the connection. -/
def link (r : Link.Request) : LinkAct (Link.Answer r) :=
  Program.ask r Program.done

/-- A step over the connection that leaves what the client remembers. -/
def linked {α : Type} (act : LinkAct (Except Error α)) : ClientAction α :=
  ExceptT.mk fun c => do
    let result ← act
    pure (result, c)

/-! ## Requests and responses -/

/-- Send a request; the answer is the number to wait for. A request that cannot be written is
expected no longer. -/
def send (command : String) (arguments : Json) : LinkAct (Except Error Nat) := do
  let seq ← link .allocate
  link (.expect seq)
  match ← link (.write ⟨seq, command, arguments⟩) with
  | .ok () => pure (.ok seq)
  | .error e =>
    link (.forget seq)
    pure (.error e)

/-- Send a request and wait for its response. -/
def request (command : String) (arguments : Json) : LinkAct (Except Error Response) := do
  match ← send command arguments with
  | .error e => pure (.error e)
  | .ok seq =>
    match ← link (.await seq) with
    | some r => pure (.ok r)
    | none => pure (.error .disconnected)

/-- The body of a successful response; a failed one is an error. -/
def bodyOf (command : String) (r : Response) : Except Error Json :=
  if r.success then .ok r.body else .error (.request command r.failureText)

/-- Send a request that has to succeed, and return the body of its response. -/
def requestBody (command : String) (arguments : Json) : LinkAct (Except Error Json) := do
  match ← request command arguments with
  | .ok r => pure (bodyOf command r)
  | .error e => pure (.error e)

/-! ## Launch -/

/-- What the kernel tells the debugger about itself. -/
def introduction : Json :=
  .object [("clientID", .str "dbgkernel"), ("clientName", .str "dbgkernel"),
    ("adapterID", .str "dbgkernel"), ("linesStartAt1", .bool true), ("columnsStartAt1", .bool true),
    ("pathFormat", .str "path"), ("supportsMemoryReferences", .bool true),
    ("supportsRunInTerminalRequest", .bool false)]

/-- The arguments of a launch request. -/
def launchArguments (plan : LaunchPlan) : Json :=
  .object [("program", .str plan.program), ("args", .texts plan.args),
    ("env", .texts (plan.env.map fun e => e.1 ++ "=" ++ e.2)),
    ("cwd", .ofText? plan.workingDirectory), ("stopOnEntry", .bool false)]

/-- Wait for the event called `name`. -/
def awaitNamed (name : String) : LinkAct (Except Error Unit) := do
  match ← link (.awaitEvent name) with
  | .timedOut => pure (.error (.timeout name))
  | .closed => pure (.error .disconnected)
  | .arrived e =>
    if e.name = name then pure (.ok ())
    else pure (.error (.launch ("target " ++ e.name ++ " while waiting for `" ++ name ++ "`")))

/-- The first breakpoint of a response is known to the debugger. -/
def isVerified (body : Json) : Bool :=
  match (body.get "breakpoints").items? with
  | some (first :: _) => (first.get "verified").bool?.getD false
  | _ => false

/-- Have the target stop at a function. -/
def setEntryBreakpoint (entry : String) : LinkAct (Except Error Unit) := do
  match ← requestBody "setFunctionBreakpoints"
      (.object [("breakpoints", .arr [.object [("name", .str entry)]])]) with
  | .error e => pure (.error e)
  | .ok body =>
    unless isVerified body do
      link (.log (Log.warn .dap ("entry breakpoint `" ++ entry ++ "` is not verified yet")))
    pure (.ok ())

/-- Wait for the response to the launch request; a failed one ends the launch. -/
def finishLaunch (seq : Nat) : LinkAct (Except Error Unit) := do
  match ← link (.awaitInTime seq) with
  | .timedOut => pure (.error (.timeout "launch response"))
  | .closed => pure (.error .disconnected)
  | .arrived r => pure (if r.success then .ok () else .error (.launch r.failureText))

/-- The first thread of a response. -/
def firstThread (body : Json) : Except Error ThreadId :=
  match (body.get "threads").items? with
  | some (first :: _) =>
    match (first.get "id").int64? with
    | some n => .ok ⟨n⟩
    | none => .error (.launch "target has no threads")
  | _ => .error (.launch "target has no threads")

/-- Launch a target. The debugger answers the launch request only when the configuration is done, so
that response is waited for last. -/
def handshake (plan : LaunchPlan) : ClientAction ThreadId := do
  let capabilities ← linked (requestBody "initialize" introduction)
  modify fun c => { c with capabilities }
  let launched ← linked (send "launch" (launchArguments plan))
  linked (awaitNamed "initialized")
  match plan.entryBreakpoint with
  | some entry => linked (setEntryBreakpoint entry)
  | none => pure ()
  let _ ← linked (requestBody "configurationDone" (.obj []))
  linked (finishLaunch launched)
  match plan.entryBreakpoint with
  | some _ => linked (awaitNamed "stopped")
  | none => pure ()
  let threads ← linked (requestBody "threads" (.obj []))
  liftExcept (firstThread threads)

/-- Launch a target and remember its main thread. Events are kept while the launch lasts. -/
def launch (plan : LaunchPlan) : ClientAction ThreadId := do
  linked (Except.ok <$> link .listen)
  let result ← ExceptT.mk ((Except.ok <$> ·) (handshake plan).run)
  linked (Except.ok <$> link .unlisten)
  let thread ← liftExcept result
  modify fun c => { c with mainThread := some thread }
  pure thread

/-! ## Evaluation -/

/-- The target's main thread. -/
def launchedThread (c : Client) : Except Error ThreadId :=
  match c.mainThread with
  | some thread => .ok thread
  | none => .error (.launch "target is not launched")

/-- The number of the innermost frame of a thread, if the debugger tells one. -/
def innermostFrame (thread : ThreadId) : LinkAct (Except Error (Option Int)) := do
  let arguments := Json.object
    [("threadId", .int thread.number), ("startFrame", .int 0), ("levels", .int 1)]
  match ← requestBody "stackTrace" arguments with
  | .error e => pure (.error e)
  | .ok body =>
    match (body.get "stackFrames").items? with
    | some (first :: _) => pure (.ok (first.get "id").int64?)
    | _ => pure (.ok none)

/-- A frame as a field of arguments; without a frame there is no field. -/
def frameField (frame : Option Int) : List (String × Json) :=
  match frame with
  | some n => [("frameId", .int n)]
  | none => []

/-- The context in which code always runs as an expression, never as a debugger command. -/
def expressionContext : String := "watch"

/-- The arguments of an evaluation. A time limit is given in microseconds, zero for none. -/
def evaluateArguments (code : String) (options : RunOptions) (frame : Option Int) : Json :=
  .object ([("expression", .str code), ("context", .str expressionContext),
    ("options", .object [("language", .str options.language), ("replMode", .bool options.replMode),
      ("unwindOnError", .bool options.unwindOnError),
      ("generateDebugInfo", .bool options.generateDebugInfo),
      ("timeoutMicros", .int (UInt64.ofNat (options.timeout.getD 0)).toNat)])] ++ frameField frame)

/-- What debuggers report for a statement that has no value. -/
def nothingTexts : List String :=
  ["", "evaluate failed", "unknown error", "no result", "no value"]

/-- A failed response that stands for a statement without a value. -/
def saysNothing (r : Response) : Bool :=
  let text := Text.trim r.failureText.toList
  let text := Text.trim ((Text.dropLead? "error:".toList text).getD text)
  nothingTexts.any fun known => text.map Char.toLower = known.toList.map Char.toLower

/-- What a response to an evaluation stands for, and the value to remember. -/
inductive EvaluateMeaning where
  | valueless
  | value (entry : KnownValue)
  | failed (entry : KnownValue)
  deriving Repr, DecidableEq, Inhabited

/-- What a response to an evaluation stands for. -/
def meaningOf (r : Response) : EvaluateMeaning :=
  if r.success then
    let entry := KnownValue.ofResult r.body
    if entry.isVoid then .valueless else .value entry
  else if saysNothing r then .valueless
  else .failed (.ofError r.failureText)

/-- Remember a value and return its handle. -/
def remember (entry : KnownValue) : ClientAction Handle := do
  let c ← get
  let (ref, values) := c.values.insert entry
  set { c with values }
  pure ref

/-- Evaluate code. All handles become stale, whatever happens after. -/
def evaluate (code : String) (options : RunOptions) : ClientAction Evaluation := do
  modify fun c => { c with values := c.values.nextGeneration }
  let thread ← liftExcept (← get).launchedThread
  let frame ← linked (innermostFrame thread)
  let response ← linked (request "evaluate" (evaluateArguments code options frame))
  match meaningOf response with
  | .valueless => pure .valueless
  | .value entry => .value <$> remember entry
  | .failed entry => .failed <$> remember entry

/-! ## Values and memory -/

/-- The value that a handle was issued for. -/
def lookup (value : Handle) : ClientAction KnownValue := do
  liftExcept ((← get).values.find value)

/-- What is known of a value. -/
def describe (value : Handle) : ClientAction ValueView := do
  let entry ← lookup value
  pure ⟨entry.description, entry.typeName, entry.error⟩

/-- The children of a value, in order. -/
def children (value : Handle) : ClientAction (List Handle) := do
  let entry ← lookup value
  if entry.variablesReference = 0 then
    pure []
  else
    let arguments := Json.object [("variablesReference", .int entry.variablesReference)]
    let body ← linked (requestBody "variables" arguments)
    let members := (body.get "variables").items?.getD []
    let c ← get
    let (refs, values) := c.values.insertAll (members.map KnownValue.ofVariable)
    set { c with values }
    pure refs

/-- The first of some values that has a given name. -/
def firstNamed (values : KnownValues) (name : String) :
    List Handle → Except Error (Option Handle)
  | [] => .ok none
  | ref :: rest =>
    match values.find ref with
    | .error e => .error e
    | .ok entry => if entry.name = some name then .ok (some ref) else firstNamed values name rest

/-- The first child of a value with a given name. -/
def member (value : Handle) (name : String) : ClientAction (Option Handle) := do
  let refs ← children value
  liftExcept (firstNamed (← get).values name refs)

/-- The scalar that an entry shows: in its description, else as the place where it is stored. -/
def scalarOf? (entry : KnownValue) : Option Nat :=
  match Text.scalar? entry.description.toList with
  | some n => some n
  | none => entry.memoryReference.bind fun reference => Text.scalar? reference.toList

/-- The bytes a value is stored in. A debugger shows scalars as text; they are stored anew. -/
def storage (value : Handle) : ClientAction Storage := do
  let entry ← lookup value
  match scalarOf? entry with
  | some n => pure (.ofScalar n)
  | none => throw (.noScalar entry.description)

/-- The first `length` of the bytes in a response. -/
def bytesOf (address length : Nat) (body : Json) : Except Error Bytes :=
  match Base64.decode ((body.get "data").text?.getD "").toList with
  | none => .error (.protocol "readMemory payload: not base64")
  | some bytes =>
    if bytes.length < length then .error (.tooFewBytes address length bytes.length)
    else .ok (bytes.take length)

/-- Exactly `length` bytes of target memory. -/
def memoryAt (address length : Nat) : LinkAct (Except Error Bytes) := do
  let arguments := Json.object
    [("memoryReference", .str (String.ofList (Numeral.hexadecimal address))), ("offset", .int 0),
      ("count", .int length)]
  match ← requestBody "readMemory" arguments with
  | .error e => pure (.error e)
  | .ok body => pure (bytesOf address length body)

/-! ## Frames -/

/-- The frame that JSON describes, the one at `index` in its stack. A frame without a line has no
source. -/
def frameOf (index : Nat) (j : Json) : Frame :=
  let name := (j.get "name").text?.getD "???"
  let line := (j.get "line").word64?.filter (0 < ·)
  let source := j.get "source"
  let file := if line.isSome then (source.get "path").text?.or (source.get "name").text? else none
  let description :=
    match file, line with
    | some file, some line =>
      let column := (j.get "column").word64?.getD 0
      s!"frame #{index}: " ++ name ++ " at " ++ file ++ s!":{line}:{column}"
    | _, _ => s!"frame #{index}: " ++ name
  { description, file, line }

/-- The frames that a response describes, the first of which has the given index. -/
def framesOf (index : Nat) : List Json → List Frame
  | [] => []
  | j :: rest => frameOf index j :: framesOf (index + 1) rest

/-- The frames of a thread, innermost first. -/
def frames (thread : ThreadId) : LinkAct (Except Error (List Frame)) := do
  match ← requestBody "stackTrace" (.object [("threadId", .int thread.number)]) with
  | .error e => pure (.error e)
  | .ok body => pure (.ok (framesOf 0 ((body.get "stackFrames").items?.getD [])))

/-! ## Interrupts, completion, end -/

/-- Interrupt the target: by a signal if its process is known, else by a request whose response
nobody waits for, since it comes only when the evaluation has unwound. -/
def interrupt (c : Client) : LinkAct (Except Error Unit) := do
  match ← link .debuggee with
  | some process =>
    match ← link (.signal process) with
    | .ok () => pure (.ok ())
    | .error errno => pure (.error (.systemCall "kill" errno))
  | none =>
    match c.launchedThread with
    | .error e => pure (.error e)
    | .ok thread =>
      match ← send "pause" (.object [("threadId", .int thread.number)]) with
      | .ok _ => pure (.ok ())
      | .error e => pure (.error e)

/-- The debugger can complete code. -/
def canComplete (c : Client) : Bool :=
  (c.capabilities.get "supportsCompletionsRequest").bool? = some true

/-- The identifier at the end of a piece of code. -/
def identifierAtEnd (code : List Char) : List Char :=
  (code.reverse.takeWhile Text.isIdentifier).reverse

/-- The line and the column of the end of a piece of code, counted from one, in characters. -/
def endPosition (code : List Char) : Nat × Nat :=
  let lines := Text.lines code
  (lines.length, (lines.getLast?.getD []).length + 1)

/-- The texts to insert that a response offers, without the stem that is there already. -/
def insertablesOf (stem : List Char) (body : Json) : List String :=
  ((body.get "targets").items?.getD []).filterMap fun target =>
    ((target.get "text").text?.or (target.get "label").text?).map fun text =>
      match Text.dropLead? stem text.toList with
      | some rest => String.ofList rest
      | none => text

/-- What the debugger offers at the end of a piece of code. -/
def complete (c : Client) (code : String) : LinkAct (Except Error Completion) := do
  match c.launchedThread with
  | .error e => pure (.error e)
  | .ok thread =>
    match ← innermostFrame thread with
    | .error e => pure (.error e)
    | .ok frame =>
      let (line, column) := endPosition code.toList
      let arguments := Json.object
        ([("text", .str code), ("line", .int line), ("column", .int column)] ++ frameField frame)
      match ← requestBody "completions" arguments with
      | .error e => pure (.error e)
      | .ok body =>
        let stem := identifierAtEnd code.toList
        pure (.ok ⟨String.ofList stem, insertablesOf stem body⟩)

/-- End the session and kill the target with it. -/
def terminate : LinkAct (Except Error Unit) := do
  match ← requestBody "disconnect" (.object [("terminateDebuggee", .bool true)]) with
  | .ok _ => pure ()
  | .error e => link (.log (Log.warn .dap ("disconnect: " ++ e.message)))
  link .killServer
  pure (.ok ())

/-! ## The debugger as the kernel sees it -/

/-- An act that leaves what the client remembers. -/
def keep {α : Type} (act : Client → LinkAct α) : StateT Client LinkAct α := fun c => do
  let a ← act c
  pure (a, c)

/-- The answer to a request of the kernel. -/
def answer : (r : Debugger.Request) → StateT Client LinkAct (Debugger.Answer r)
  | .launch plan => (launch plan).run
  | .evaluate code options => (evaluate code options).run
  | .describe value => (describe value).run
  | .children value => (children value).run
  | .member value name => (member value name).run
  | .storage value => (storage value).run
  | .memoryAt address length => keep fun _ => memoryAt address length
  | .takeOutput limit => keep fun _ => Except.ok <$> link (.takeOutput limit)
  | .unreadOutput => keep fun _ => link .unreadOutput
  | .frames thread => keep fun _ => frames thread
  | .interrupt => keep interrupt
  | .canComplete => keep fun c => pure c.canComplete
  | .complete _ code => keep fun c => c.complete code
  | .terminate => keep fun _ => terminate

end Client

end NotebookKernel.Dap
