import NotebookKernel.Text.Utf8

/-!
Base64 with the standard alphabet and padding. Decoding accepts exactly what encoding produces:
full groups of four, padding only in the last, and no stray bits under the padding.
-/

namespace NotebookKernel.Base64

/-- The digit for six bits. -/
def digit (n : Nat) : Char :=
  if n < 26 then Char.ofNat ('A'.toNat + n)
  else if n < 52 then Char.ofNat ('a'.toNat + (n - 26))
  else if n < 62 then Char.ofNat ('0'.toNat + (n - 52))
  else if n = 62 then '+'
  else '/'

/-- The six bits of a digit. -/
def value? (c : Char) : Option Nat :=
  if 'A' ≤ c ∧ c ≤ 'Z' then some (c.toNat - 'A'.toNat)
  else if 'a' ≤ c ∧ c ≤ 'z' then some (c.toNat - 'a'.toNat + 26)
  else if '0' ≤ c ∧ c ≤ '9' then some (c.toNat - '0'.toNat + 52)
  else if c = '+' then some 62
  else if c = '/' then some 63
  else none

/-- The text of a byte sequence. -/
def encode : Bytes → List Char
  | [] => []
  | [a] =>
    let n := a.toNat
    [digit (n / 4), digit (n % 4 * 16), '=', '=']
  | [a, b] =>
    let n := a.toNat * 0x100 + b.toNat
    [digit (n / 0x400), digit (n / 0x10 % 64), digit (n % 0x10 * 4), '=']
  | a :: b :: c :: rest =>
    let n := a.toNat * 0x10000 + b.toNat * 0x100 + c.toNat
    digit (n / 0x40000) :: digit (n / 0x1000 % 64) :: digit (n / 0x40 % 64) :: digit (n % 64) ::
      encode rest

/-- The last group of a text, of which padding may be a part. -/
def decodeLast (a b c d : Char) : Option Bytes :=
  match value? a, value? b with
  | some a, some b =>
    if c = '=' ∧ d = '=' then
      if b % 16 = 0 then some [UInt8.ofNat (a * 4 + b / 16)] else none
    else
      match value? c with
      | none => none
      | some c =>
        let n := a * 0x1000 + b * 0x40 + c
        if d = '=' then
          if c % 4 = 0 then some [UInt8.ofNat (n / 0x400), UInt8.ofNat (n / 4)] else none
        else
          match value? d with
          | none => none
          | some d =>
            let n := n * 0x40 + d
            some [UInt8.ofNat (n / 0x10000), UInt8.ofNat (n / 0x100), UInt8.ofNat n]
  | _, _ => none

/-- A group of four digits without padding. -/
def decodeGroup (a b c d : Char) : Option Bytes :=
  match value? a, value? b, value? c, value? d with
  | some a, some b, some c, some d =>
    let n := a * 0x40000 + b * 0x1000 + c * 0x40 + d
    some [UInt8.ofNat (n / 0x10000), UInt8.ofNat (n / 0x100), UInt8.ofNat n]
  | _, _, _, _ => none

/-- The byte sequence of a text. -/
def decode : List Char → Option Bytes
  | [] => some []
  | [a, b, c, d] => decodeLast a b c d
  | a :: b :: c :: d :: rest =>
    match decodeGroup a b c d, decode rest with
    | some group, some bytes => some (group ++ bytes)
    | _, _ => none
  | _ => none

end NotebookKernel.Base64
