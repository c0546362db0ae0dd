import NotebookKernel.CommandLine
import NotebookKernel.Dap.Client
import NotebookKernel.LogFile
import NotebookKernel.Serve

/-!
The program: a kernel that serves requests from its standard input and writes replies and
notifications to its standard output.

The debugger runs beside the kernel. It reads requests from a named pipe and writes messages to
another; the pipes have the debugger's name with `.requests` and `.messages` behind it. All runs in
one thread, so output of the target is relayed when a cell ends and not while it runs.
-/

namespace NotebookKernel.CommandLine

/-- The two pipes to the debugger. -/
structure Pipes where
  requests : IO.FS.Handle
  messages : IO.FS.Handle

/-- What the running program holds. -/
structure Running where
  connection : IO.Ref Dap.Connection
  client : IO.Ref Dap.Client
  /-- The debugger, once it is connected. -/
  pipes : IO.Ref (Option Pipes)
  /-- The log file, once it is open. -/
  logFile : IO.Ref (Option String)
  busy : IO.Ref Bool
  printed : IO.Ref Bool

/-- A failure of the operating system as the kernel's own. -/
def errorOf : IO.Error → Error
  | .noFileOrDirectory _ _ _ => .stream .notFound
  | .permissionDenied _ _ _ => .stream .permissionDenied
  | .inappropriateType _ _ _ => .stream .isADirectory
  | e => .stream (.other (toString e))

/-- Run what may fail in the operating system. -/
def attempt {α : Type} (act : IO α) : IO (Except Error α) := do
  try return .ok (← act) catch e => return .error (errorOf e)

/-- Write a text to the standard output at once. -/
def say (text : String) : IO Unit := do
  let out ← IO.getStdout
  out.putStr text
  out.flush

/-- Append bytes to a file. -/
def append (path : String) (bytes : ByteArray) : IO Unit := do
  (← IO.FS.Handle.mk path .append).write bytes

namespace Running

/-- A program that has just been started. -/
def new : IO Running := do
  pure {
    connection := ← IO.mkRef .fresh
    client := ← IO.mkRef .fresh
    pipes := ← IO.mkRef none
    logFile := ← IO.mkRef none
    busy := ← IO.mkRef false
    printed := ← IO.mkRef false }

/-- Write a record to the log file, or to the error stream while there is none. -/
def log (p : Running) (record : Log.Record) : IO Unit := do
  match ← p.logFile.get with
  | none => IO.eprintln record.line
  | some path => append path (record.line ++ "\n").toUTF8

/-- Send a request to the debugger. -/
def send (p : Running) (request : Dap.Request) : IO (Except Error Unit) := do
  match ← p.pipes.get with
  | none => pure (.error .disconnected)
  | some pipes =>
    attempt do
      pipes.requests.write ⟨(Dap.Frame.encode request.toJson).toArray⟩
      pipes.requests.flush

/-- Wait for bytes from the debugger. -/
def receive (p : Running) : IO Unit := do
  let connection ← p.connection.get
  let bytes ←
    match ← p.pipes.get with
    | none => pure []
    | some pipes =>
      match ← attempt (pipes.messages.read (USize.ofNat connection.missing)) with
      | .ok bytes => pure bytes.toList
      | .error _ => pure []
  let (connection, records) := connection.receive bytes bytes.isEmpty
  p.connection.set connection
  records.forM p.log

/-- Answer a request to the connection. -/
partial def answerLink (p : Running) (r : Dap.Link.Request) : IO (Dap.Link.Answer r) := do
  let connection ← p.connection.get
  match connection.answer? r with
  | some (a, connection) =>
    p.connection.set connection
    pure a
  | none => outside connection.reading r
where
  /-- What goes beyond the connection, or waits for the debugger. -/
  outside (reading : Bool) : (r : Dap.Link.Request) → IO (Dap.Link.Answer r)
    | .write request => p.send request
    | .signal _ => pure (.error .notImplemented)
    | .killServer => p.pipes.set none
    | .log record => p.log record
    | .awaitInTime seq => do
      if reading then
        p.receive
        p.answerLink (.awaitInTime seq)
      else pure .timedOut
    | .awaitEvent name => do
      if reading then
        p.receive
        p.answerLink (.awaitEvent name)
      else pure .timedOut
    | r => do
      p.receive
      p.answerLink r

/-- Answer a request of the kernel. -/
def answer (p : Running) : (r : Host.Request) → IO (Host.Answer r)
  | .debugger r => do
    let (a, client) ← ((Dap.Client.answer r).run (← p.client.get)).run p.answerLink
    p.client.set client
    pure a
  | .broadcast message => attempt (say message.line)
  | .reply kind content => attempt (say (replyLine kind content))
  | .readText path => do
    match ← attempt (IO.FS.readBinFile path) with
    | .error e => pure (.error e)
    | .ok bytes =>
      match Utf8.decodeString? bytes.toList with
      | some text => pure (.ok text)
      | none => pure (.error (.stream .notText))
  | .openForAppend path => attempt (append path .empty)
  | .log record => p.log record
  | .lockTarget => pure ()
  | .unlockTarget => pure ()
  | .setBusy busy => p.busy.set busy
  | .isBusy => p.busy.get
  | .startPolling => do
    p.printed.set false
    pure (.ok ())
  | .stopPolling => pure ()
  | .takeGuard => p.printed.get
  | .releaseGuard printed => p.printed.set printed

/-- Run what the kernel does; an error ends the program with a report that says what it was for. -/
def perform {α : Type} (p : Running) (complaint : String) (action : Action α) : IO α := do
  match ← Program.run p.answer action.run with
  | .ok a => pure a
  | .error e => throw (IO.userError (complaint ++ ": " ++ e.message))

/-- Serve requests until one asks for the end. -/
partial def serve (p : Running) (input : IO.FS.Stream) (k : Kernel) : IO (Except Error Unit) := do
  match ← attempt input.getLine with
  | .error _ => pure (.error (.stream .notText))
  | .ok "" => pure (.ok ())
  | .ok text =>
    let (served, k) ← Program.run p.answer ((Serve.line text.toList).run.run k)
    match served with
    | .error e => pure (.error e)
    | .ok .finished => pure (.ok ())
    | .ok .more => p.serve input k

end Running

/-- The settings in force. A settings file that the user named and that cannot be used is reported,
and the preset is used in its place. -/
def loadSettings (p : Running) (o : Options) (home : Option String) : IO Settings := do
  let loaded ← Program.run p.answer (match o.config with
    | some path => Settings.loadFile path
    | none => Settings.loadUser home)
  let logFile := o.logFile <|> (loaded.bind (·.logFile))
  p.perform "init logging" (Log.prepare logFile)
  p.logFile.set logFile
  if loaded.isNone && o.config.isSome then
    p.log (Log.warn .kernel "configuration file is not loaded, preset is used")
  pure (loaded.getD .preset)

/-- The surroundings of this process. -/
def findPlace : IO Place := do
  let block ← IO.FS.readBinFile "/proc/self/environ"
  let executable ← IO.appPath
  let directory ← IO.currentDir
  let random ← IO.getRandomBytes 16
  pure {
    environment := environmentOfBlock block.toList
    installDirectory := (executable.parent.map toString).getD "/"
    workingDirectory := some directory.toString
    freshSessionId := sessionIdOf random.toList }

/-- Open the pipes to a debugger. -/
def connect (name : String) : IO Pipes := do
  let requests ← IO.FS.Handle.mk (name ++ ".requests") .write
  let messages ← IO.FS.Handle.mk (name ++ ".messages") .read
  pure ⟨requests, messages⟩

/-- Start a kernel and serve requests. -/
def start (arguments : List String) : IO Unit := do
  let options ←
    match Options.ofArguments arguments with
    | .ok options => pure options
    | .error e => throw (IO.userError e.message)
  let place ← findPlace
  let p ← Running.new
  let settings ← loadSettings p options (place.environment.lookup "HOME")
  match startPlan options settings place with
  | .error refusal => throw (IO.userError refusal.message)
  | .ok plan =>
    let debugger := options.adapter.getD settings.adapter.command
    match ← attempt (connect debugger) with
    | .error _ => throw (IO.userError ("debug adapter `" ++ debugger ++ "` not found"))
    | .ok pipes => p.pipes.set (some pipes)
    let kernel ← p.perform "start kernel" (Kernel.start plan)
    let served ← p.serve (← IO.getStdin) kernel
    match ← Program.run p.answer Kernel.shutdown.run with
    | .ok () => pure ()
    | .error e => p.log (Log.warn .kernel ("shutdown: " ++ e.message))
    match served with
    | .ok () => pure ()
    | .error e => throw (IO.userError ("serve requests: " ++ e.message))

end NotebookKernel.CommandLine

/-- Run the program with its arguments. -/
def main (arguments : List String) : IO UInt32 := do
  try
    NotebookKernel.CommandLine.start arguments
    pure 0
  catch e =>
    IO.eprintln ("Error: " ++ toString e)
    pure 1
