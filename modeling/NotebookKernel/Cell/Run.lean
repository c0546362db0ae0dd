import NotebookKernel.Cell.QueuedMessage
import NotebookKernel.Cell.Streaming

/-!
Running a cell.

The target first learns which request it serves. Then the cell is expanded and executed while a
relay streams the output; after a success the display messages queued by the cell are broadcast,
still under the relay, since reading the queue may print too. Without a relay nothing is executed.
-/

namespace NotebookKernel

/-- What came of a cell. -/
structure CellResult where
  result : Outcome
  /-- The cell wrote output. -/
  printed : Bool
  deriving Repr, DecidableEq, Inhabited

namespace Kernel

/-- Tell the target which request it serves. -/
def announceRequest (k : Kernel) (parent : Json) : Action Unit := do
  let result ← k.execute (k.language.setContext parent.render)
  match result.failureText with
  | none => pure ()
  | some description => throw (.refusedSnippet "update request context" description)

/-- Execute an expanded cell while a relay runs. The relay is stopped whatever happens. -/
def runRelayed (k : Kernel) (code : String) : Action CellResult := ExceptT.mk do
  match ← (k.execute code).run with
  | .error e =>
    let _ ← Streaming.stop k.chunkSize
    pure (.error e)
  | .ok result =>
    -- output of the cell itself; reading the queue below may print too
    let printed ← Streaming.drain k.chunkSize
    if result.succeeded then QueuedMessage.publish k
    let _ ← Streaming.stop k.chunkSize
    pure (.ok ⟨result, printed⟩)

/-- Execute an expanded cell under a relay, if one can be started. -/
def runStreaming (k : Kernel) (code : String) : Action CellResult := do
  Streaming.start k.chunkSize
  k.runRelayed code

/-- Run a cell. `parent` describes the request that asks for it. -/
def runCell (source : String) (parent : Json) : KernelAction CellResult := do
  KernelAction.reading (·.announceRequest parent)
  match ← (expand source : KernelAct (Except ExpansionError String)) with
  | .error e => pure ⟨.notExpanded e, false⟩
  | .ok code => KernelAction.reading (·.runStreaming code)

end Kernel

end NotebookKernel
