import NotebookKernel.Host

/-!
The debug session: a launched target, its main thread and how code is evaluated in it.

Evaluations, memory reads and completions hold the evaluation lock. Output and interrupts do not,
so they get through while an evaluation runs; an interrupt reaches the target only then.
-/

namespace NotebookKernel

/-- A launched target. -/
structure Session where
  mainThread : ThreadId
  options : RunOptions
  /-- The width of native integers, once it was probed. -/
  nativeWidth : Option NativeWidth
  deriving Repr, DecidableEq, Inhabited

namespace Session

/-- Launch the target and stop it at the entry breakpoint. -/
def launch (plan : LaunchPlan) (options : RunOptions) : Action Session := do
  let mainThread ← (Act.debugger (.launch plan) : Action ThreadId)
  pure { mainThread, options, nativeWidth := none }

/-- Evaluate code; while it runs, an evaluation is in flight. -/
def evaluate (s : Session) (code : String) : Action Evaluation :=
  Act.withTargetLock do
    Act.host (.setBusy true)
    let result ← Act.debugger (.evaluate code s.options)
    Act.host (.setBusy false)
    pure result

/-- What the debugger tells about a value. -/
def describe (value : Handle) : Action ValueView :=
  Act.debugger (.describe value)

/-- The ordered children of a collection. -/
def children (value : Handle) : Action (List Handle) :=
  Act.debugger (.children value)

/-- A member of an aggregate; a missing member is an error. -/
def member (value : Handle) (name : String) : Action Handle := do
  match ← (Act.debugger (.member value name) : Action (Option Handle)) with
  | some ref => pure ref
  | none => throw (.noMember name)

/-- The bytes a value is stored in. -/
def storage (value : Handle) : Action Storage :=
  Act.debugger (.storage value)

/-- Exactly `length` bytes of target memory. -/
def memoryAt (address length : Nat) : Action Bytes :=
  Act.withTargetLock (Act.debugger (.memoryAt address length))

/-- Take captured output. -/
def takeOutput (limit : Nat) : Action String :=
  Act.debugger (.takeOutput limit)

/-- Ask the target to unwind the evaluation in flight. An idle target is left alone. -/
def interrupt : Action Unit := do
  if ← Act.host .isBusy then
    (Act.debugger .interrupt : Action Unit)

/-- The frames of the main thread, innermost first. -/
def mainFrames (s : Session) : Action (List Frame) :=
  Act.debugger (.frames s.mainThread)

/-- The frames of the main thread with a source that a user can look at. -/
def mainTrace (s : Session) : Action (List String) :=
  Frame.visible <$> s.mainFrames

/-- Remember the width of native integers; the first one stays. -/
def fixWidth (s : Session) (width : NativeWidth) : Session :=
  match s.nativeWidth with
  | none => { s with nativeWidth := some width }
  | some _ => s

/-- The width of native integers. -/
def probedWidth (s : Session) : Except Error NativeWidth :=
  match s.nativeWidth with
  | some width => .ok width
  | none => .error .widthNotProbed

/-- What the debugger offers to complete code. -/
def complete (s : Session) (code : String) : Action Completion :=
  Act.withTargetLock (Act.debugger (.complete s.options.language code))

/-- Kill the target. -/
def terminate : Action Unit :=
  Act.debugger .terminate

end Session

end NotebookKernel
