import NotebookKernel.Text.Blank

/-!
Directives: lines of a cell that the kernel treats itself.
-/

namespace NotebookKernel

/-- What a line of a cell asks of the kernel. -/
inductive Directive where
  /-- Nothing: the line belongs to the program. -/
  | text
  /-- Switch code completion on. -/
  | enableCompletion
  /-- Put a file in place of the line. The name is missing if it is not given in quotes. -/
  | includeFile (name : Option (List Char))
  deriving Repr, DecidableEq, Inhabited

namespace Directive

/-- How an include line starts. -/
def includeMark : List Char := "%include ".toList

/-- The whole of a line that switches completion on. -/
def completionMark : List Char := "%enableCompletion".toList

/-- The name that an include line gives: what stands in double quotes at its start, at least one
character. What follows the closing quote does not count. -/
def quotedName? (rest : List Char) : Option (List Char) :=
  match rest.dropWhile Text.isBlank with
  | '"' :: rest =>
    let name := rest.takeWhile (· ≠ '"')
    if name ≠ [] ∧ (rest.dropWhile (· ≠ '"')) ≠ [] then some name else none
  | _ => none

/-- The directive that a line is. White space before a directive does not count. -/
def ofLine (line : List Char) : Directive :=
  let start := line.dropWhile Text.isBlank
  match Text.dropLead? includeMark start with
  | some rest => .includeFile (quotedName? rest)
  | none =>
    if Text.dropWhileEnd Text.isBlank start = completionMark then .enableCompletion else .text

end Directive

end NotebookKernel
