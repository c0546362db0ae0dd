import NotebookKernel.Error

/-!
Values of the target process as the debugger shows them: handles, descriptions, outcomes of
evaluations, and the bytes a value is stored in.
-/

namespace NotebookKernel

/-- A thread of the target. -/
structure ThreadId where
  number : Int
  deriving Repr, DecidableEq, Inhabited

/-- A handle on a value in the target. Handles live for one evaluation: the generation counts
evaluations, and a handle of an earlier one is stale. -/
structure Handle where
  id : Nat
  generation : Nat
  deriving Repr, DecidableEq, Inhabited

/-- The outcome of evaluating a piece of code. -/
inductive Evaluation where
  | valueless
  | value (ref : Handle)
  /-- The code did not compile or faulted; the value carries the error. -/
  | failed (ref : Handle)
  deriving Repr, DecidableEq, Inhabited

/-- What the debugger tells about a value. -/
structure ValueView where
  description : String
  typeName : Option String
  /-- Present for the value of a failed evaluation. -/
  error : Option String
  deriving Repr, DecidableEq, Inhabited

inductive Endianness where
  | little
  | big
  deriving Repr, DecidableEq, Inhabited

/-- The width of the target's native integers. -/
inductive NativeWidth where
  | bits32
  | bits64
  deriving Repr, DecidableEq, Inhabited

namespace NativeWidth

/-- The number of bytes of an integer. -/
def bytes : NativeWidth → Nat
  | bits32 => 4
  | bits64 => 8

/-- The width with the given number of bits. -/
def ofBits (bits : Nat) : Except Error NativeWidth :=
  if bits = 32 then .ok bits32
  else if bits = 64 then .ok bits64
  else .error (.badWidth bits)

end NativeWidth

/-- The number that bytes denote when the first is the most significant. -/
def bigEndian (bytes : Bytes) : Nat :=
  bytes.foldl (fun n b => 256 * n + b.toNat) 0

/-- The number that bytes denote in a given order. -/
def Endianness.number : Endianness → Bytes → Nat
  | .big, bytes => bigEndian bytes
  | .little, bytes => bigEndian bytes.reverse

/-- The bytes of a number, the least significant first. -/
def littleEndianBytes : (count n : Nat) → Bytes
  | 0, _ => []
  | count + 1, n => UInt8.ofNat n :: littleEndianBytes count (n / 256)

/-- A number of `size` bytes read as a two's complement. -/
def twosComplement (size n : Nat) : Int :=
  if 2 * n < Nat.pow 256 size then n else (n : Int) - Int.pow 256 size

/-- The bytes a value is stored in. -/
structure Storage where
  bytes : Bytes
  order : Endianness
  /-- The number of bytes of a pointer. -/
  addressSize : Nat
  deriving Repr, DecidableEq, Inhabited

namespace Storage

/-- The `size` bytes at `offset`; `what` names what is read when they are not all there. -/
def slice (s : Storage) (offset size : Nat) (what : String) : Except Error Bytes :=
  if offset + size ≤ s.bytes.length then .ok ((s.bytes.drop offset).take size)
  else .error (.malformedStorage what s.bytes)

/-- The pointer stored at `offset`. -/
def address (s : Storage) (offset : Nat) : Except Error Nat :=
  match s.slice offset s.addressSize "address" with
  | .error e => .error e
  | .ok raw =>
    if s.addressSize = 4 ∨ s.addressSize = 8 then .ok (s.order.number raw)
    else .error (.malformedStorage "address" raw)

/-- The signed integer of the given width stored at `offset`. -/
def signed (s : Storage) (offset : Nat) (width : NativeWidth) : Except Error Int :=
  match s.slice offset width.bytes "integer" with
  | .error e => .error e
  | .ok raw => .ok (twosComplement width.bytes (s.order.number raw))

/-- The storage of a 64 bit scalar: eight bytes, the least significant first. -/
def ofScalar (n : Nat) : Storage :=
  ⟨littleEndianBytes 8 n, .little, 8⟩

end Storage

end NotebookKernel
