import NotebookKernel.Host

/-!
The file that log records go to.
-/

namespace NotebookKernel

/-- Prepare the log: its file is created if it does not exist, and opened for appending. Without a
file there is nothing to do. -/
def Log.prepare (file : Option String) : Action Unit := do
  match file with
  | some path => (Act.host (.openForAppend path) : Action Unit)
  | none => pure ()

end NotebookKernel
