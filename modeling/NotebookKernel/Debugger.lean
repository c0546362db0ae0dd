import NotebookKernel.Program
import NotebookKernel.Target.Frame
import NotebookKernel.Target.Value

/-!
What the kernel needs from a debugger.

The kernel never talks to a debugger directly: evaluation, inspection of values, memory, frames,
captured output and interrupts are all requests of this interface.
-/

namespace NotebookKernel

/-- How to start the target. -/
structure LaunchPlan where
  program : String
  args : List String
  env : List (String × String)
  workingDirectory : Option String
  /-- The function where the target stops before the first evaluation. -/
  entryBreakpoint : Option String
  deriving Repr, DecidableEq, Inhabited

/-- How code is evaluated. -/
structure RunOptions where
  language : String
  /-- Declarations of one evaluation are visible in the next. -/
  replMode : Bool
  unwindOnError : Bool
  generateDebugInfo : Bool
  /-- The time limit in microseconds, `none` for no limit. -/
  timeout : Option Nat
  deriving Repr, DecidableEq, Inhabited

/-- The options of every cell: declarations persist, the stack is kept after an error and debug
information is there to describe it. -/
def RunOptions.forCells (language : String) (timeout : Option Nat) : RunOptions :=
  { language, replMode := true, unwindOnError := false, generateDebugInfo := true, timeout }

/-- What the debugger offers to complete a piece of code. -/
structure Completion where
  /-- The part before the cursor that every match replaces. -/
  stem : String
  /-- The texts to insert after the stem. -/
  insertables : List String
  deriving Repr, DecidableEq, Inhabited

/-- A request to the debugger. -/
inductive Debugger.Request where
  /-- Start the target and stop it at the entry breakpoint. -/
  | launch (plan : LaunchPlan)
  /-- Run code in the stopped target until it is finished. -/
  | evaluate (code : String) (options : RunOptions)
  | describe (value : Handle)
  /-- The ordered children of a collection. -/
  | children (value : Handle)
  /-- The member of an aggregate with a given name. -/
  | member (value : Handle) (name : String)
  | storage (value : Handle)
  /-- Exactly `length` bytes of target memory. -/
  | memoryAt (address length : Nat)
  /-- Take captured output of the target: at most `limit` bytes of it, but at least one character
  if there is any. -/
  | takeOutput (limit : Nat)
  /-- How many characters of output are captured and not yet taken. -/
  | unreadOutput
  /-- The frames of a thread, innermost first. -/
  | frames (thread : ThreadId)
  /-- Ask the target to unwind the evaluation that is running. -/
  | interrupt
  | canComplete
  | complete (language code : String)
  /-- Kill the target. -/
  | terminate

/-- The answer to a request to the debugger. -/
abbrev Debugger.Answer : Debugger.Request → Type
  | .launch _ => Except Error ThreadId
  | .evaluate _ _ => Except Error Evaluation
  | .describe _ => Except Error ValueView
  | .children _ => Except Error (List Handle)
  | .member _ _ => Except Error (Option Handle)
  | .storage _ => Except Error Storage
  | .memoryAt _ _ => Except Error Bytes
  | .takeOutput _ => Except Error String
  | .unreadOutput => Nat
  | .frames _ => Except Error (List Frame)
  | .interrupt => Except Error Unit
  | .canComplete => Bool
  | .complete _ _ => Except Error Completion
  | .terminate => Except Error Unit

/-- The debugger as a program's surroundings. -/
abbrev Debugger : Interface := ⟨Debugger.Request, Debugger.Answer⟩

end NotebookKernel
