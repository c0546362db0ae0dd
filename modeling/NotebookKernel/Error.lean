import NotebookKernel.SystemError
import NotebookKernel.Text.Numeral
import NotebookKernel.Text.Utf8

/-!
Everything that can go wrong between the kernel and its target, and the text of each report.
-/

namespace NotebookKernel

/-- The cause of a failed kernel operation. -/
inductive Error where
  | stream (fault : StreamFault)
  | malformedText (report : Utf8.Malformed)
  | malformedJson (detail : String)
  /-- The debugger cannot do this at all. -/
  | unsupported (feature : String)
  /-- The connection to the debugger is gone. -/
  | disconnected
  /-- The debugger refused a request. -/
  | request (command message : String)
  | protocol (detail : String)
  | timeout (what : String)
  | launch (reason : String)
  /-- The value handle was issued for an earlier evaluation. -/
  | staleHandle (id generation : Nat)
  | unknownHandle (id : Nat)
  | noMember (name : String)
  /-- The bytes stored for a value do not have the size that its kind needs. -/
  | malformedStorage (what : String) (bytes : Bytes)
  | noScalar (description : String)
  | badWidth (bits : Nat)
  | widthNotProbed
  | negativeLength (length : Int)
  | tooFewBytes (address expected got : Nat)
  /-- A snippet of the kernel's own gave something else than it should. -/
  | refusedSnippet (snippet result : String)
  | startup (reason : String)
  | poisoned
  | systemCall (call : String) (errno : Errno)
  | interruptsClosed
  deriving Repr, DecidableEq, Inhabited

namespace Error

/-- Bytes as a list of numbers. -/
def byteList (bytes : Bytes) : String :=
  "[" ++ String.intercalate ", " (bytes.map fun b => toString b.toNat) ++ "]"

/-- The text of the report. -/
def message : Error → String
  | stream fault => fault.message
  | malformedText report => report.message
  | malformedJson detail => detail
  | unsupported feature => "debug adapter does not support " ++ feature
  | disconnected => "debug adapter connection closed"
  | request command message => "`" ++ command ++ "` request failed: " ++ message
  | protocol detail => "malformed adapter message: " ++ detail
  | timeout what => "timeout while waiting for " ++ what
  | launch reason => "process launch: " ++ reason
  | staleHandle id generation =>
    s!"value handle {id} belongs to evaluation {generation} and is no longer valid"
  | unknownHandle id => s!"unknown value handle {id}"
  | noMember name => "value has no member `" ++ name ++ "`"
  | malformedStorage what bytes =>
    "invalid binary representation of `" ++ what ++ "`: " ++ byteList bytes
  | noScalar description => "cannot interpret `" ++ description ++ "` as a scalar value"
  | badWidth bits => s!"unsupported integer bitwidth {bits}"
  | widthNotProbed => "integer bitwidth was not probed"
  | negativeLength length => s!"invalid buffer length {length}"
  | tooFewBytes address expected got =>
    "memory read at " ++ String.ofList (Numeral.hexadecimal address) ++
      s!": expected {expected} bytes, got {got}"
  | refusedSnippet snippet result => "unexpected result of `" ++ snippet ++ "`: " ++ result
  | startup reason => "kernel startup: " ++ reason
  | poisoned => "session lock poisoned"
  | systemCall call errno => call ++ " syscall error: " ++ errno.message
  | interruptsClosed => "interrupt source closed"

/-- After a fatal error no further cell can be served. -/
def isFatal : Error → Bool
  | disconnected | launch _ | badWidth _ | startup _ | poisoned | systemCall _ _ => true
  | _ => false

end Error

end NotebookKernel
