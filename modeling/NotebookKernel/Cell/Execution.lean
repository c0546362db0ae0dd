import NotebookKernel.Cell.Expansion
import NotebookKernel.Session

/-!
Execution of code in the target, and the state of a kernel between cells.

Code is submitted behind a location marker that places it in a file named for the current cell.
What comes of it is classified once, with the value's description captured, because the handle on
the value lasts only until the next evaluation.
-/

namespace NotebookKernel

/-- A value of the target together with its description at the time of its evaluation. -/
structure ShownValue where
  handle : Handle
  description : String
  typeName : Option String
  deriving Repr, DecidableEq, Inhabited

/-- What came of a piece of code. -/
inductive Outcome where
  | finished
  | gave (value : ShownValue)
  | notExpanded (error : ExpansionError)
  /-- The code did not compile or faulted. -/
  | failed (value : ShownValue)
  deriving Repr, DecidableEq, Inhabited

namespace Outcome

/-- The code ran to its end. -/
def succeeded : Outcome → Bool
  | finished | gave _ => true
  | _ => false

/-- The text of a failure. -/
def failureText : Outcome → Option String
  | notExpanded error => some error.message
  | failed value => some value.description
  | _ => none

/-- A result in one line of a log. -/
def summary : Outcome → String
  | finished => "SuccessWithoutValue"
  | gave value => "SuccessWithValue(" ++ value.description ++ ")"
  | notExpanded error => "PreprocessorError(" ++ error.message ++ ")"
  | failed value => "RuntimeError(" ++ value.description ++ ")"

end Outcome

/-- A kernel between two cells. -/
structure Kernel where
  session : Session
  expander : Expander
  completion : CompletionState
  /-- The number of the current cell. -/
  counter : UInt32
  /-- How many bytes of output one read takes at most. -/
  chunkSize : Nat

instance : Inhabited Kernel where
  default :=
    { session := default
      expander := ⟨.swift, default⟩
      completion := default
      counter := 0
      chunkSize := 1000 }

/-- What a kernel does, with its state. -/
abbrev KernelAct := StateT Kernel Act

/-- What a kernel does, perhaps ending in an error; its state is kept even then. -/
abbrev KernelAction := ExceptT Error KernelAct

/-- An action that looks at the kernel and leaves it as it is. -/
def KernelAction.reading {α : Type} (action : Kernel → Action α) : KernelAction α :=
  ExceptT.mk fun k => do
    let result ← (action k).run
    pure (result, k)

namespace Kernel

/-- The language of the target. -/
def language (k : Kernel) : TargetLanguage :=
  k.expander.language

/-- The name under which diagnostics speak of the current cell. -/
def cellName (k : Kernel) : String :=
  s!"<Cell {k.counter.toNat}>"

/-- Go on to the next cell. -/
def nextCell (k : Kernel) : Kernel :=
  { k with counter := k.counter + 1 }

/-- Code behind the marker that places it in the current cell. -/
def located (k : Kernel) (code : String) : String :=
  k.language.marker k.cellName 1 ++ "\n" ++ code

/-- The result for an evaluation that gave a value. -/
def describeValue (handle : Handle) : Action Outcome := do
  let info ← Session.describe handle
  pure (.gave ⟨handle, info.description, info.typeName⟩)

/-- The result for an evaluation that failed; its description is the error if there is one. -/
def describeFailure (handle : Handle) : Action Outcome := do
  let info ← Session.describe handle
  pure (.failed ⟨handle, info.error.getD info.description, info.typeName⟩)

/-- The result that an evaluation stands for. -/
def classify : Evaluation → Action Outcome
  | .valueless => pure .finished
  | .value handle => describeValue handle
  | .failed handle => describeFailure handle

/-- Execute code that needs no expansion. -/
def execute (k : Kernel) (code : String) : Action Outcome := do
  let evaluation ← k.session.evaluate (k.located code)
  classify evaluation

/-- Expand a source under the name of the current cell. Only the state of completion changes. -/
def expand (source : String) : KernelAct (Except ExpansionError String) := fun k => do
  let (result, completion) ← (k.expander.run source k.cellName).run.run k.completion
  pure (result, { k with completion })

/-- Expand a source and execute it, without streaming of output. -/
def expandAndSubmit (source : String) : KernelAction Outcome := do
  match ← (expand source : KernelAct (Except ExpansionError String)) with
  | .ok code => KernelAction.reading (·.execute code)
  | .error e => pure (.notExpanded e)

end Kernel

end NotebookKernel
