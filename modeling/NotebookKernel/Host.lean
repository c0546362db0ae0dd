import NotebookKernel.Debugger
import NotebookKernel.Broadcast
import NotebookKernel.Log

/-!
The surroundings of the kernel: the debugger, the broadcast channel, the reply channel, files, the
log, and the state that the kernel shares with its relays.

The shared state is small. A lock serializes what may not run beside an evaluation, a flag says
whether an evaluation is in flight, and while a relay polls, a guard with the relay's memory of
earlier output makes its drains exclude each other.
-/

namespace NotebookKernel

/-- A request of the kernel to its surroundings. -/
inductive Host.Request where
  | debugger (request : Debugger.Request)
  /-- Send a message to every front end. -/
  | broadcast (message : Broadcast)
  /-- Answer the request of the given kind that is being served. -/
  | reply (kind : String) (content : Json)
  /-- The text of a file. -/
  | readText (path : String)
  /-- Create a file, or open it for appending. -/
  | openForAppend (path : String)
  | log (record : Log.Record)
  /-- Wait for the evaluation lock and take it. -/
  | lockTarget
  | unlockTarget
  | setBusy (busy : Bool)
  | isBusy
  /-- Start a relay: from now on it also drains from time to time by itself. Its memory is fresh.
  There may be no thread for it, and then there is no relay. -/
  | startPolling
  /-- Stop that; wait for a drain that is under way. -/
  | stopPolling
  /-- Wait for the relay's guard and take it. The answer tells whether the relay had output. -/
  | takeGuard
  /-- Give the guard back, with what the relay is to remember. -/
  | releaseGuard (printed : Bool)

/-- The answer to a request of the kernel. -/
abbrev Host.Answer : Host.Request → Type
  | .debugger r => Debugger.Answer r
  | .broadcast _ => Except Error Unit
  | .reply _ _ => Except Error Unit
  | .readText _ => Except Error String
  | .openForAppend _ => Except Error Unit
  | .log _ => Unit
  | .lockTarget => Unit
  | .unlockTarget => Unit
  | .setBusy _ => Unit
  | .isBusy => Bool
  | .startPolling => Except Error Unit
  | .stopPolling => Unit
  | .takeGuard => Bool
  | .releaseGuard _ => Unit

/-- The surroundings of the kernel. -/
abbrev Host : Interface := ⟨Host.Request, Host.Answer⟩

/-- What the kernel does, without a possibility to fail. -/
abbrev Act := Program Host

/-- What the kernel does, perhaps ending in an error. -/
abbrev Action := ExceptT Error Act

namespace Act

/-- A request to the surroundings. -/
def host (r : Host.Request) : Act (Host.Answer r) :=
  Program.ask r Program.done

/-- A request to the debugger. -/
def debugger (r : Debugger.Request) : Act (Debugger.Answer r) :=
  host (.debugger r)

/-- Write a log record. -/
def log (r : Log.Record) : Act Unit :=
  host (.log r)

/-- Send a message to every front end. -/
def broadcast (m : Broadcast) : Act (Except Error Unit) :=
  host (.broadcast m)

/-- Send a message; a failure leaves a warning that starts with `complaint`. -/
def broadcastOrWarn (area : Log.Area) (complaint : String) (m : Broadcast) : Act Unit := do
  match ← broadcast m with
  | .ok () => pure ()
  | .error e => log (Log.warn area (complaint ++ " " ++ e.message))

/-- Hold the evaluation lock during an action. -/
def withTargetLock {α : Type} (action : Act α) : Act α := do
  host .lockTarget
  let result ← action
  host .unlockTarget
  pure result

end Act

end NotebookKernel
