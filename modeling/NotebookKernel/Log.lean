/-!
Log records: what the kernel reports besides its answers.
-/

namespace NotebookKernel.Log

/-- How bad a record is. -/
inductive Level where
  | warn
  | error
  deriving Repr, DecidableEq, Inhabited

/-- The part of the kernel that reports. -/
inductive Area where
  | kernel
  | relay
  | dap
  deriving Repr, DecidableEq, Inhabited

/-- A log record. -/
structure Record where
  level : Level
  area : Area
  message : String
  deriving Repr, DecidableEq, Inhabited

/-- A warning. -/
def warn (area : Area) (message : String) : Record :=
  ⟨.warn, area, message⟩

/-- An error. -/
def error (area : Area) (message : String) : Record :=
  ⟨.error, area, message⟩

/-- The name of a level. -/
def Level.name : Level → String
  | .warn => "WARN"
  | .error => "ERROR"

/-- The name of an area. -/
def Area.name : Area → String
  | .kernel => "kernel"
  | .relay => "relay"
  | .dap => "dap"

/-- The line of a record. -/
def Record.line (r : Record) : String :=
  r.level.name ++ " " ++ r.area.name ++ ": " ++ r.message

end NotebookKernel.Log
