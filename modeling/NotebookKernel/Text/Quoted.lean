import NotebookKernel.Text.Invisible

/-!
Texts in double quotes for a diagnostic, so that a reader sees every character of them: double quotes
and backslashes are escaped, and characters without a visible form are given by their code points.
-/

namespace NotebookKernel.Text

/-- A character inside quotes. -/
def escapeVisible (c : Char) : List Char :=
  if c = '\x00' then ['\\', '0']
  else if c = '\t' then ['\\', 't']
  else if c = '\r' then ['\\', 'r']
  else if c = '\n' then ['\\', 'n']
  else if c = '\\' ∨ c = '"' then ['\\', c]
  else if isInvisible c then
    '\\' :: 'u' :: '\x7b' :: Nat.toDigits 16 c.toNat ++ ['\x7d']
  else [c]

/-- A text in quotes. -/
def quoteVisible (text : List Char) : List Char :=
  '"' :: text.flatMap escapeVisible ++ ['"']

/-- A list of texts in quotes, in brackets. -/
def quoteList (texts : List (List Char)) : List Char :=
  '[' :: List.intercalate [',', ' '] (texts.map quoteVisible) ++ [']']

end NotebookKernel.Text
