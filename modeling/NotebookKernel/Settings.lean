import NotebookKernel.Host
import NotebookKernel.Toml.Reader

/-!
Settings of the kernel: a TOML document laid over a preset.

A section or a key that the document leaves out keeps its preset value, one that the settings do not
know is ignored, and a value of the wrong kind spoils the document as a whole.
-/

namespace NotebookKernel

/-- The debugger to start. -/
structure DebuggerSettings where
  command : String := "lldb-dap"
  args : List String := []
  deriving Repr, DecidableEq, Inhabited

/-- The target to launch. -/
structure TargetSettings where
  program : Option String := none
  entryBreakpoint : String := "repl_main"
  language : String := "swift"
  /-- Variables of the environment that are not passed on. -/
  envBlocklist : List String := ["REPL_PROGRAM_PATH", "DBGK_INSTALL_DIR"]
  deriving Repr, DecidableEq, Inhabited

/-- The streaming of output. -/
structure StreamSettings where
  pollIntervalMs : Nat := 100
  chunkSize : Nat := 1000
  deriving Repr, DecidableEq, Inhabited

/-- The settings of a kernel. -/
structure Settings where
  adapter : DebuggerSettings := {}
  target : TargetSettings := {}
  /-- The time limit of an evaluation in milliseconds, zero for none. -/
  timeoutMs : Nat := 0
  relay : StreamSettings := {}
  /-- Directories searched for included files after the two that are always searched. -/
  includeRoots : List String := []
  /-- The log file; without one, the log goes to the error stream. -/
  logFile : Option String := none
  deriving Repr, DecidableEq, Inhabited

namespace Settings

/-- The settings that a document is laid over. -/
def preset : Settings := {}

/-- A document with the preset settings, for users to start from. -/
def presetDocument : String :=
"# dbgk kernel configuration.
# Copy to ~/.config/dbgk/kernel.toml and adjust.

[adapter]
# Debug adapter executable, resolved through PATH.
command = \"lldb-dap\"
args = []

[target]
# REPL host program, usually given with --program or REPL_PROGRAM_PATH.
# program = \"/usr/bin/repl_swift\"
entry_breakpoint = \"repl_main\"
language = \"swift\"
# Variables of the kernel environment that are not passed to the target.
env_blocklist = [\"REPL_PROGRAM_PATH\", \"DBGK_INSTALL_DIR\"]

[evaluation]
# Evaluation time limit in milliseconds, 0 means no limit.
timeout_ms = 0

[relay]
poll_interval_ms = 100
chunk_size = 1000

[preprocessor]
# Searched for %include files after the kernel directory and the working directory.
include_roots = []

[log]
# Log file, logs go to stderr if not set.
# file = \"/tmp/dbgk.log\"
"

/-! ## Values of one kind -/

/-- A text. -/
def text? : Toml.Value → Option String
  | .text s => some s
  | _ => none

/-- A number that is not negative. -/
def natural? : Toml.Value → Option Nat
  | .integer n => if 0 ≤ n then some n.toNat else none
  | _ => none

/-- A list of texts. -/
def texts? : Toml.Value → Option (List String)
  | .array items => items.mapM text?
  | _ => none

/-- A text that may be left out. -/
def optionalText? (v : Toml.Value) : Option (Option String) :=
  (text? v).map some

/-! ## Sections -/

/-- The values of a section's keys, `none` for each that is left out. A section is a table; a list
is taken for its values in order, and a date for a section without any. -/
def sectionValues? (keys : List String) : Toml.Value → Option (List (Option Toml.Value))
  | .table entries => some (keys.map fun key => entries.lookup key)
  | .array items =>
    some ((items.take keys.length).map some ++ List.replicate (keys.length - items.length) none)
  | .datetime => some (keys.map fun _ => none)
  | _ => none

/-- A value laid over its preset. -/
def orPreset {α : Type} (read : Toml.Value → Option α) (preset : α) :
    Option Toml.Value → Option α
  | none => some preset
  | some v => read v

/-- The debugger's section. -/
def adapterOf? (v : Toml.Value) : Option DebuggerSettings := do
  let preset : DebuggerSettings := {}
  match ← sectionValues? ["command", "args"] v with
  | [command, args] =>
    pure { command := ← orPreset text? preset.command command
           args := ← orPreset texts? preset.args args }
  | _ => none

/-- The target's section. -/
def targetOf? (v : Toml.Value) : Option TargetSettings := do
  let preset : TargetSettings := {}
  match ← sectionValues? ["program", "entry_breakpoint", "language", "env_blocklist"] v with
  | [program, entryBreakpoint, language, envBlocklist] =>
    pure { program := ← orPreset optionalText? preset.program program
           entryBreakpoint := ← orPreset text? preset.entryBreakpoint entryBreakpoint
           language := ← orPreset text? preset.language language
           envBlocklist := ← orPreset texts? preset.envBlocklist envBlocklist }
  | _ => none

/-- The section of evaluations: their time limit. -/
def timeoutOf? (v : Toml.Value) : Option Nat := do
  match ← sectionValues? ["timeout_ms"] v with
  | [timeout] => orPreset natural? preset.timeoutMs timeout
  | _ => none

/-- The section of output streaming. -/
def relayOf? (v : Toml.Value) : Option StreamSettings := do
  let preset : StreamSettings := {}
  match ← sectionValues? ["poll_interval_ms", "chunk_size"] v with
  | [pollInterval, chunkSize] =>
    pure { pollIntervalMs := ← orPreset natural? preset.pollIntervalMs pollInterval
           chunkSize := ← orPreset natural? preset.chunkSize chunkSize }
  | _ => none

/-- The section of the preprocessor: directories for included files. -/
def includeRootsOf? (v : Toml.Value) : Option (List String) := do
  match ← sectionValues? ["include_roots"] v with
  | [roots] => orPreset texts? preset.includeRoots roots
  | _ => none

/-- The section of the log: its file. -/
def logFileOf? (v : Toml.Value) : Option (Option String) := do
  match ← sectionValues? ["file"] v with
  | [file] => orPreset optionalText? preset.logFile file
  | _ => none

/-- Settings from the entries of a document. -/
def ofEntries? (entries : List (String × Toml.Value)) : Option Settings := do
  pure { adapter := ← orPreset adapterOf? preset.adapter (entries.lookup "adapter")
         target := ← orPreset targetOf? preset.target (entries.lookup "target")
         timeoutMs := ← orPreset timeoutOf? preset.timeoutMs (entries.lookup "evaluation")
         relay := ← orPreset relayOf? preset.relay (entries.lookup "relay")
         includeRoots :=
           ← orPreset includeRootsOf? preset.includeRoots (entries.lookup "preprocessor")
         logFile := ← orPreset logFileOf? preset.logFile (entries.lookup "log") }

/-- Settings from the text of a document. -/
def ofText? (text : String) : Option Settings :=
  (Toml.parse? text.toList).bind ofEntries?

/-! ## What follows from settings -/

/-- The time limit of evaluations in microseconds. -/
def timeout (s : Settings) : Option Nat :=
  if 0 < s.timeoutMs then some (1000 * s.timeoutMs) else none

end Settings

/-- The settings a relay works with: intervals and chunks are at least one. -/
def StreamSettings.effective (r : StreamSettings) : StreamSettings :=
  { pollIntervalMs := max r.pollIntervalMs 1, chunkSize := max r.chunkSize 1 }

namespace Settings

/-! ## Files -/

/-- Where the settings of a user are, seen from the home directory. -/
def userFile : String := ".config/dbgk/kernel.toml"

/-- Settings from the text of a file, with a warning if it is no settings document. -/
def ofFileText (text : String) : Act (Option Settings) := do
  match ofText? text with
  | some settings => pure (some settings)
  | none =>
    Act.log (Log.warn .kernel "not a settings document")
    pure none

/-- Load settings from a file that the user named. -/
def loadFile (path : String) : Act (Option Settings) := do
  match ← Act.host (.readText path) with
  | .ok text => ofFileText text
  | .error e =>
    Act.log (Log.error .kernel ("Error while load config file " ++ path ++ ": " ++ e.message))
    pure none

/-- Load a user's settings. There need not be any. -/
def loadUser (home : Option String) : Act (Option Settings) := do
  match home with
  | none => pure none
  | some home =>
    match ← Act.host (.readText (Path.join home userFile)) with
    | .ok text => ofFileText text
    | .error _ => pure none

end Settings

end NotebookKernel
