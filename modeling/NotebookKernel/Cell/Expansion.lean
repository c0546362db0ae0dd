import NotebookKernel.Cell.Directive
import NotebookKernel.TargetLanguage
import NotebookKernel.Host
import NotebookKernel.Text.Quoted

/-!
Expansion of a cell: the lines that are directives are replaced, all others are kept as they are.

An included file is put between two location markers, so that a diagnostic about a line names the
line where its author wrote it: in the file, or in the cell.
-/

namespace NotebookKernel

/-- Why a cell cannot be expanded. -/
inductive ExpansionError where
  | unquotedName (line : Nat)
  | fileNotFound (line : Nat) (name : String) (searched : List String)
  deriving Repr, DecidableEq, Inhabited

/-- The text of the diagnostic. -/
def ExpansionError.message : ExpansionError → String
  | unquotedName line => s!"Line {line}: %include must be followed by a name in quotes"
  | fileNotFound line name searched =>
    s!"Line {line}: Could not find \"" ++ name ++ "\". Searched " ++
      String.ofList (Text.quoteList (searched.map String.toList)) ++ "."

/-- Whether code completion is on. -/
structure CompletionState where
  supported : Bool
  enabled : Bool
  deriving Repr, DecidableEq, Inhabited

namespace CompletionState

/-- Completion is off at first. -/
def ofSupport (supported : Bool) : CompletionState :=
  ⟨supported, false⟩

/-- Completion was asked for; it comes on where the debugger supports it. -/
def enable (s : CompletionState) : CompletionState :=
  { s with enabled := s.enabled || s.supported }

/-- What the user is told who asked for completion. -/
def notice (s : CompletionState) : String :=
  if s.supported then "Completion enabled!\n"
  else "Completion NOT enabled because the debug adapter does not support completion.\n"

end CompletionState

/-- Where included files are looked for. -/
structure IncludePath where
  /-- The directory of the kernel's own executable. -/
  installDirectory : Option String
  workingDirectory : Option String
  /-- Directories from the settings. -/
  extra : List String
  deriving Repr, DecidableEq, Inhabited

/-- The directories in the order in which they are searched. -/
def IncludePath.roots (p : IncludePath) : List String :=
  p.installDirectory.toList ++ p.workingDirectory.toList ++ p.extra

/-- What expansion depends on. -/
structure Expander where
  language : TargetLanguage
  includePath : IncludePath

/-- What expansion does: it may switch completion on, and it may fail. -/
abbrev Expansion := ExceptT ExpansionError (StateT CompletionState Act)

namespace Expander

/-- The text under the first of the directories that has a readable file of that name. -/
def findText (name : String) : (roots : List String) → Act (Option String)
  | [] => pure none
  | root :: rest => do
    match ← Act.host (.readText (Path.join root name)) with
    | .ok text => pure (some text)
    | .error _ => findText name rest

/-- What stands in place of an include line: the file between markers, the second of which leads
back to the line. -/
def splice (p : Expander) (name text file : String) (line : Nat) : String :=
  "\n".intercalate [p.language.marker name 1, text, p.language.marker file line, ""]

/-- The replacement of an include line. -/
def includeText (p : Expander) (file : String) (line : Nat) (name? : Option (List Char)) :
    Expansion String := do
  match name? with
  | none => throw (.unquotedName line)
  | some name =>
    let name := String.ofList name
    let roots := p.includePath.roots
    match ← (findText name roots : Act (Option String)) with
    | some text => pure (p.splice name text file line)
    | none => throw (.fileNotFound line name roots)

/-- Ask for completion and tell the user what came of it. -/
def enableCompletion : Expansion Unit := do
  let completion ← get
  set completion.enable
  let notice : Act Unit :=
    Act.broadcastOrWarn .kernel "publish completion notice:"
      (.notification (.stdout completion.notice))
  notice

/-- The replacement of a line. -/
def line (p : Expander) (file : String) (number : Nat) (text : List Char) :
    Expansion String :=
  match Directive.ofLine text with
  | .text => pure (String.ofList text)
  | .enableCompletion => do
    enableCompletion
    pure ""
  | .includeFile name? => p.includeText file number name?

/-- The replacements of lines, the first of which has the given number. The first line that
cannot be replaced ends the work. -/
def lines (p : Expander) (file : String) (number : Nat) :
    List (List Char) → Expansion (List String)
  | [] => pure []
  | text :: rest => do
    let first ← p.line file number text
    let others ← p.lines file (number + 1) rest
    pure (first :: others)

/-- The text of a cell with its directives replaced. `file` is the name under which diagnostics
speak of the cell. -/
def run (p : Expander) (source file : String) : Expansion String :=
  ("\n".intercalate ·) <$> p.lines file 1 (Text.lines source.toList)

end Expander

end NotebookKernel
