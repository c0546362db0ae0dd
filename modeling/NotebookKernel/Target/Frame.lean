import NotebookKernel.Path

/-!
Stack frames of the target, and which of them a user wants to see.
-/

namespace NotebookKernel

/-- A frame of a target thread. -/
structure Frame where
  /-- The frame as the debugger prints it. -/
  description : String
  /-- The source file, unknown without line information. -/
  file : Option String
  line : Option Nat
  deriving Repr, DecidableEq, Inhabited

namespace Frame

/-- The file that the compiler names as the source of library code it specialized. -/
def hiddenFile : String := "<compiler-generated>"

/-- The frame has a source that a user can look at. -/
def isVisible (f : Frame) : Bool :=
  match f.file with
  | none => false
  | some file => !Path.same file hiddenFile

/-- The descriptions of the frames with a source that a user can look at, in order. -/
def visible (frames : List Frame) : List String :=
  (frames.filter isVisible).map description

end Frame

end NotebookKernel
