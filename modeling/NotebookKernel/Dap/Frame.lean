import NotebookKernel.Error
import NotebookKernel.Json.Printer
import NotebookKernel.Json.Reader

/-!
Framing of debugger messages on a byte stream.

A message is preceded by a header that gives the number of its bytes. The reader works on the bytes
that have arrived: it finds a message or an error at their start, or needs more of them. Whatever it
finds, the bytes left over start where the next message is looked for, so an unreadable message does
not spoil the ones after it. A length that no buffer can have is the exception: nothing is read then.
-/

namespace NotebookKernel.Dap.Frame

/-- The header field that gives the number of bytes of a message. -/
def lengthField : List Char := "Content-Length:".toList

/-- A payload behind its header. -/
def wrap (payload : Bytes) : Bytes :=
  Utf8.encode (lengthField ++ ' ' :: Numeral.decimal payload.length ++ ['\r', '\n', '\r', '\n'])
    ++ payload

/-- A message as it is written. -/
def encode (message : Json) : Bytes :=
  wrap (Utf8.encode message.chars)

/-- What stands at the start of the bytes that have arrived. -/
inductive Next where
  /-- A message, and the bytes after it. -/
  | message (j : Json) (rest : Bytes)
  /-- Something unreadable, and the bytes after it. -/
  | failure (e : Error) (rest : Bytes)
  /-- A payload that no buffer holds, and the bytes after its header. The reader dies of it. -/
  | overflow (rest : Bytes)
  /-- Not enough bytes to tell; at least this many are missing. -/
  | more (missing : Nat)
  deriving Inhabited

/-- Bytes up to the first line feed, and those after it. -/
def splitLine? : Bytes → Option (Bytes × Bytes)
  | [] => none
  | b :: rest =>
    if b = 0x0A then some ([], rest)
    else (splitLine? rest).map fun s => (b :: s.1, s.2)

/-- What a line of a header says. -/
inductive HeaderLine where
  | blank
  /-- The number of bytes of the message. -/
  | length (n : Nat)
  | badLength (text : List Char)
  | other
  deriving Repr, DecidableEq, Inhabited

/-- Read a line of a header, without its line feed. Carriage returns at its end do not count. -/
def headerLine (line : List Char) : HeaderLine :=
  let line := Text.dropWhileEnd (fun c => c = '\r' ∨ c = '\n') line
  if line = [] then .blank
  else
    match Text.dropLead? lengthField line with
    | none => .other
    | some text =>
      match Numeral.below? (Nat.pow 2 64) (Text.trim text) with
      | some n => .length n
      | none => .badLength text

/-- Every buffer has fewer bytes than this. -/
def bufferLimit : Nat :=
  Nat.pow 2 63

/-- The payload of `n` bytes at the start of what has arrived. The buffer for it is made before the
first of them is read. -/
def payload (ended : Bool) (n : Nat) (bytes : Bytes) : Next :=
  if bufferLimit ≤ n then .overflow bytes
  else if n ≤ bytes.length then
    match Json.ofBytes? (bytes.take n) with
    | some j => .message j (bytes.drop n)
    | none => .failure (.malformedJson "not a JSON value") (bytes.drop n)
  else if ended then .failure (.stream .unexpectedEnd) []
  else .more (n - bytes.length)

/-- Read header lines and the payload after them. `length?` is what the lines so far say; of two
lengths the later counts. Blank lines before a length are skipped. Every step takes a line, and
`fuel` is at least the number of bytes. -/
def header (ended : Bool) (length? : Option Nat) : (fuel : Nat) → Bytes → Next
  | 0, bytes => if ended then .failure .disconnected bytes else .more 1
  | fuel + 1, bytes =>
    let line? :=
      match splitLine? bytes with
      | some split => some split
      | none => if ended ∧ bytes ≠ [] then some (bytes, []) else none
    match line? with
    | none => if ended then .failure .disconnected [] else .more 1
    | some (line, rest) =>
      match Utf8.decode line with
      | .error _ => .failure (.stream .notText) rest
      | .ok text =>
        match headerLine text with
        | .other => header ended length? fuel rest
        | .length n => header ended (some n) fuel rest
        | .badLength text =>
          .failure (.protocol ("bad Content-Length `" ++ String.ofList text ++ "`")) rest
        | .blank =>
          match length? with
          | none => header ended none fuel rest
          | some n => payload ended n rest

/-- What stands at the start of the bytes that have arrived; `ended` says that no more will. -/
def next (ended : Bool) (bytes : Bytes) : Next :=
  header ended none (bytes.length + 1) bytes

end NotebookKernel.Dap.Frame
