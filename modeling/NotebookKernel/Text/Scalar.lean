import NotebookKernel.Text.Blank
import NotebookKernel.Text.Numeral

/-!
Scalars in the text of a value, the way debuggers print them: pointers in hexadecimal, integers in
decimal, perhaps with a type in front.
-/

namespace NotebookKernel.Text

/-- The word starts like a number. -/
def startsScalar (word : List Char) : Bool :=
  match word with
  | c :: _ => Numeral.isDigit c || c = '-'
  | [] => false

/-- The 64 bits of a word that is a scalar. A negative number stands for its two's complement. -/
def scalarOfWord? (word : List Char) : Option Nat :=
  match word with
  | '0' :: 'x' :: digits => Numeral.hexBelow? (Nat.pow 2 64) digits
  | '0' :: 'X' :: digits => Numeral.hexBelow? (Nat.pow 2 64) digits
  | word =>
    match Numeral.signedBelow? (Nat.pow 2 63) word with
    | some n => some (n % Int.pow 2 64).toNat
    | none => Numeral.below? (Nat.pow 2 64) word

/-- The 64 bits of the scalar in a text: its first word that starts like a number. -/
def scalar? (text : List Char) : Option Nat :=
  ((words text).find? startsScalar).bind scalarOfWord?

end NotebookKernel.Text
