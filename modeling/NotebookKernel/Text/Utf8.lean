/-!
UTF-8 between characters and bytes. Decoding says where the first malformed sequence starts and
how many bytes it spoils, so that an error report can name both.
-/

namespace NotebookKernel

/-- A sequence of bytes. -/
abbrev Bytes := List UInt8

namespace Utf8

/-- The bytes of a text. -/
def encode (text : List Char) : Bytes :=
  text.flatMap String.utf8EncodeChar

/-- The bytes of a string. -/
def encodeString (text : String) : Bytes :=
  encode text.toList

/-- Where decoding stops. -/
structure Malformed where
  /-- Number of bytes before the malformed sequence. -/
  start : Nat
  /-- Number of bytes in the sequence, `none` if the input ends inside it. -/
  width : Option Nat
  deriving Repr, DecidableEq, Inhabited

/-- The text of an error report. -/
def Malformed.message (m : Malformed) : String :=
  match m.width with
  | some width => s!"invalid utf-8 sequence of {width} bytes from index {m.start}"
  | none => s!"incomplete utf-8 byte sequence from index {m.start}"

/-- Bytes that may follow the first one of a sequence. -/
def isTail (b : UInt8) : Bool :=
  0x80 ≤ b && b ≤ 0xBF

/-- Bytes that may come second in a sequence of three that starts with `a`: overlong forms and
surrogates are left out. -/
def isSecondOfThree (a b : UInt8) : Bool :=
  (if a = 0xE0 then 0xA0 ≤ b else 0x80 ≤ b) && (if a = 0xED then b ≤ 0x9F else b ≤ 0xBF)

/-- Bytes that may come second in a sequence of four that starts with `a`: overlong forms and
code points above U+10FFFF are left out. -/
def isSecondOfFour (a b : UInt8) : Bool :=
  (if a = 0xF0 then 0x90 ≤ b else 0x80 ≤ b) && (if a = 0xF4 then b ≤ 0x8F else b ≤ 0xBF)

/-- The low bits of a byte that follows the first one. -/
def tailBits (b : UInt8) : Nat :=
  b.toNat % 0x40

/-- Decode bytes that start at the given offset. -/
def decodeFrom (offset : Nat) : Bytes → Except Malformed (List Char)
  | [] => .ok []
  | a :: rest =>
    if a < 0x80 then
      (decodeFrom (offset + 1) rest).map (Char.ofNat a.toNat :: ·)
    else if 0xC2 ≤ a && a ≤ 0xDF then
      match rest with
      | [] => .error ⟨offset, none⟩
      | b :: rest =>
        if isTail b then
          (decodeFrom (offset + 2) rest).map
            (Char.ofNat (a.toNat % 0x20 * 0x40 + tailBits b) :: ·)
        else .error ⟨offset, some 1⟩
    else if 0xE0 ≤ a && a ≤ 0xEF then
      match rest with
      | [] => .error ⟨offset, none⟩
      | b :: rest =>
        if isSecondOfThree a b then
          match rest with
          | [] => .error ⟨offset, none⟩
          | c :: rest =>
            if isTail c then
              (decodeFrom (offset + 3) rest).map
                (Char.ofNat (a.toNat % 0x10 * 0x1000 + tailBits b * 0x40 + tailBits c) :: ·)
            else .error ⟨offset, some 2⟩
        else .error ⟨offset, some 1⟩
    else if 0xF0 ≤ a && a ≤ 0xF4 then
      match rest with
      | [] => .error ⟨offset, none⟩
      | b :: rest =>
        if isSecondOfFour a b then
          match rest with
          | [] => .error ⟨offset, none⟩
          | c :: rest =>
            if isTail c then
              match rest with
              | [] => .error ⟨offset, none⟩
              | d :: rest =>
                if isTail d then
                  (decodeFrom (offset + 4) rest).map
                    (Char.ofNat (a.toNat % 0x08 * 0x40000 + tailBits b * 0x1000
                      + tailBits c * 0x40 + tailBits d) :: ·)
                else .error ⟨offset, some 3⟩
            else .error ⟨offset, some 2⟩
        else .error ⟨offset, some 1⟩
    else .error ⟨offset, some 1⟩

/-- Decode bytes, all of which have to be well formed. -/
def decode (bytes : Bytes) : Except Malformed (List Char) :=
  decodeFrom 0 bytes

/-- Decode bytes to a string, `none` if they are malformed. -/
def decodeString? (bytes : Bytes) : Option String :=
  match decode bytes with
  | .ok text => some (String.ofList text)
  | .error _ => none

end Utf8

end NotebookKernel
