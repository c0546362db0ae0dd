import NotebookKernel.Decimal.Shortest
import NotebookKernel.Json
import NotebookKernel.Text.Numeral

/-!
JSON text: compact, with the fields of an object in the order of its list.
-/

namespace NotebookKernel.Json

/-- Numbers that are not integers are written positionally from 1e-5 up to 1e16, and otherwise with
an exponent that always has a sign. -/
def numberStyle : Decimal.Style := ⟨16, 4, true⟩

/-- A hexadecimal digit in lower case. -/
def hexDigit (n : Nat) : Char :=
  Nat.digitChar (n % 16)

/-- A character inside a quoted text. Quotes, backslashes and control characters are escaped. -/
def escape (c : Char) : List Char :=
  if c = '"' then ['\\', '"']
  else if c = '\\' then ['\\', '\\']
  else if c = '\n' then ['\\', 'n']
  else if c = '\r' then ['\\', 'r']
  else if c = '\t' then ['\\', 't']
  else if c = '\x08' then ['\\', 'b']
  else if c = '\x0c' then ['\\', 'f']
  else if c.toNat < 0x20 then
    ['\\', 'u', '0', '0', hexDigit (c.toNat / 16), hexDigit c.toNat]
  else [c]

/-- A text in quotes. -/
def quoted (text : List Char) : List Char :=
  '"' :: text.flatMap escape ++ ['"']

mutual

/-- The characters of a value's text. -/
def chars : Json → List Char
  | null => ['n', 'u', 'l', 'l']
  | bool true => ['t', 'r', 'u', 'e']
  | bool false => ['f', 'a', 'l', 's', 'e']
  | int n => Numeral.signed n
  | float bits => Decimal.textOfBits numberStyle bits
  | str s => quoted s.toList
  | arr [] => ['[', ']']
  | arr (j :: rest) => '[' :: (chars j ++ itemChars rest)
  | obj [] => ['\x7b', '\x7d']
  | obj ((k, j) :: rest) => '\x7b' :: (quoted k.toList ++ ':' :: (chars j ++ fieldChars rest))

/-- The items after the first, each with a comma in front, and the closing bracket. -/
def itemChars : List Json → List Char
  | [] => [']']
  | j :: rest => ',' :: (chars j ++ itemChars rest)

/-- The fields after the first, each with a comma in front, and the closing brace. -/
def fieldChars : List (String × Json) → List Char
  | [] => ['\x7d']
  | (k, j) :: rest => ',' :: (quoted k.toList ++ ':' :: (chars j ++ fieldChars rest))

end

/-- The text of a value. -/
def render (j : Json) : String :=
  String.ofList j.chars

end NotebookKernel.Json
