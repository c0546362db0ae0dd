/-!
Numerals: the digits of a number, and reading them back within the range of a machine word.
-/

namespace NotebookKernel.Numeral

/-- ASCII digits. -/
def isDigit (c : Char) : Bool :=
  '0' ≤ c && c ≤ '9'

/-- The value of a hexadecimal digit of either case. -/
def hexDigit? (c : Char) : Option Nat :=
  if isDigit c then some (c.toNat - '0'.toNat)
  else if 'a' ≤ c && c ≤ 'f' then some (c.toNat - 'a'.toNat + 10)
  else if 'A' ≤ c && c ≤ 'F' then some (c.toNat - 'A'.toNat + 10)
  else none

/-- The decimal digits of a number. -/
def decimal (n : Nat) : List Char :=
  Nat.toDigits 10 n

/-- The decimal text of an integer. -/
def signed (n : Int) : List Char :=
  if n < 0 then '-' :: decimal n.natAbs else decimal n.natAbs

/-- The hexadecimal text of a number: lower case, with `0x` in front. -/
def hexadecimal (n : Nat) : List Char :=
  '0' :: 'x' :: Nat.toDigits 16 n

/-- The value of a decimal numeral: at least one digit and nothing else. -/
def natural? (text : List Char) : Option Nat :=
  if text ≠ [] ∧ text.all isDigit then some (Nat.ofDigitChars 10 text 0) else none

/-- The value of a hexadecimal numeral, digits only, read onto `start`. -/
def hexFrom? (start : Nat) : List Char → Option Nat
  | [] => some start
  | c :: cs =>
    match hexDigit? c with
    | some d => hexFrom? (16 * start + d) cs
    | none => none

/-- A text without one leading plus sign. -/
def dropPlus (text : List Char) : List Char :=
  match text with
  | '+' :: rest => rest
  | text => text

/-- An unsigned decimal numeral below `bound`; a plus sign may stand in front. -/
def below? (bound : Nat) (text : List Char) : Option Nat :=
  (natural? (dropPlus text)).filter (· < bound)

/-- An unsigned hexadecimal numeral below `bound`; a plus sign may stand in front. -/
def hexBelow? (bound : Nat) (text : List Char) : Option Nat :=
  match dropPlus text with
  | [] => none
  | digits => (hexFrom? 0 digits).filter (· < bound)

/-- A signed decimal numeral in `[-bound, bound)`; a sign may stand in front. -/
def signedBelow? (bound : Nat) (text : List Char) : Option Int :=
  match text with
  | '-' :: digits => ((natural? digits).filter (· ≤ bound)).map fun n => -(n : Int)
  | text => (below? bound text).map fun n => (n : Int)

end NotebookKernel.Numeral
