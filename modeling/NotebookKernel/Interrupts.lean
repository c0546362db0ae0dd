import NotebookKernel.Session

/-!
Forwarding of interrupt requests to the target for the whole life of a kernel.

The relay waits for its source again and again. A request is forwarded, a failure of the source is
reported, and only the end of the source ends the relay.
-/

namespace NotebookKernel.Interrupts

/-- Treat one thing that the source gave. Tells whether the relay goes on. -/
def forward (event : Except Error Unit) : Act Bool := do
  match event with
  | .ok () =>
    match ← Session.interrupt.run with
    | .ok () => pure ()
    | .error e => Act.log (Log.warn .kernel ("interrupt target: " ++ e.message))
    pure true
  | .error .interruptsClosed => pure false
  | .error e =>
    Act.log (Log.error .relay ("wait for interrupt: " ++ e.message))
    pure true

/-- Treat what a source gives, until it is closed. A source that gives nothing more is closed. -/
def serve : List (Except Error Unit) → Act Unit
  | [] => pure ()
  | event :: rest => do
    if ← forward event then serve rest

end NotebookKernel.Interrupts
