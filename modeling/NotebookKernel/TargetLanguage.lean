import NotebookKernel.Json.Printer

/-!
The texts that the kernel injects into the target, in the language the target interprets.
-/

namespace NotebookKernel

/-- The notebook session that a target serves. -/
structure NotebookIdentity where
  id : String
  key : String
  username : String
  deriving Repr, DecidableEq, Inhabited

/-- The kernel's snippets in a target language. -/
structure TargetLanguage where
  /-- The name of the language, as the debugger knows it. -/
  name : String
  /-- The directive that places the following lines at a line of a file. -/
  marker : (file : String) → (line : Nat) → String
  /-- The expression for the bit width of native integers. -/
  widthProbe : String
  /-- The expression that returns the queued display messages and empties the queue. -/
  takeQueue : String
  /-- The statement that makes a context, given as JSON text, the one of the current request. -/
  setContext : (context : String) → String
  /-- The declaration of the object through which the target serves its session. -/
  declareSession : NotebookIdentity → String
  /-- The name of the file with the target's side of the communication, if there is one. -/
  communicator : Option String

namespace TargetLanguage

/-- A text as a string literal; the escapes of JSON are those of the literals. -/
def literal (text : String) : String :=
  String.ofList (Json.quoted text.toList)

/-- Swift. -/
def swift : TargetLanguage where
  name := "swift"
  marker file line := "#sourceLocation(file: \"" ++ file ++ s!"\", line: {line})"
  widthProbe := "Int.bitWidth"
  takeQueue := "JupyterKernel.communicator.triggerAfterSuccessfulExecution()"
  setContext context :=
    "JupyterKernel.communicator.updateParentMessage(\n" ++
      "    to: KernelCommunicator.ParentMessage(json: " ++ literal context ++ "))"
  declareSession identity :=
    "enum JupyterKernel \x7b\n" ++
      "    static var communicator = KernelCommunicator(\n" ++
      "        jupyterSession: KernelCommunicator.JupyterSession(\n" ++
      "            id: " ++ literal identity.id ++ ", key: " ++ literal identity.key ++
      ", username: " ++ literal identity.username ++ "))\n" ++
      "\x7d"
  communicator := some "KernelCommunicator.swift"

end TargetLanguage

end NotebookKernel
